import SettingsCache.Proofs.Overlap.Basic

/-!
# Operations by themselves

`Cache.perform` carries an operation out with each call answered at once. That is a run in which
nothing else happens until the operation ends, and so all that holds of every run holds of it.
-/

namespace SettingsCache.Overlap

variable {σ : Type} [Provider σ] {moves : σ → σ → Prop} {start s : Overlap σ}
  {log : List (Moment σ)} {m : Moment σ} {kind : Kind}

/-- An operation that has come some way ends if it goes on by itself. -/
theorem Run.carryOn {c : Cache} {provider : σ} {out : List Outstanding}
    {operation : Operation kind} {since : Nat} {progress : Progress kind}
    (run : Run moves start (log ++ [m])
      ⟨c, provider, out ++ progress.outstanding operation since⟩)
    (hdone : ∀ answer, progress = .done answer → m.deed.Ends log.length operation since answer) :
    let performed := c.carryOn provider progress
    ∃ later m', Run moves start (log ++ later ++ [m'])
        ⟨performed.state, performed.provider, out⟩ ∧
      m'.deed.Ends (log ++ later).length operation since performed.answer := by
  fun_induction Cache.carryOn c provider progress generalizing log m with
  | case1 c provider answer =>
    refine ⟨[], m, ?_, ?_⟩
    · rw [List.append_nil]
      rw [Progress.outstanding, List.append_nil] at run
      exact run
    · rw [List.append_nil]
      exact hdone answer rfl
  | case2 c provider verb call pending outcome provider' hserve turn =>
    rename_i ih
    -- The call is answered, the operation has its next turn, and from there on it goes on.
    have houtcome : outcome = (Provider.answer provider c.ns call none).1 := by
      rw [Provider.answer, hserve]
    have hprovider : provider' = (Provider.answer provider c.ns call none).2 := by
      rw [Provider.answer, hserve]
    have hanswer : Step moves (log ++ [m]).length
        ⟨c, provider, out ++ [⟨operation, since, call, pending, none, none⟩]⟩
        (.answered call outcome)
        ⟨c, provider', out ++ [⟨operation, since, call, pending, none, some outcome⟩]⟩ := by
      rw [hprovider]
      exact .answer _ rfl houtcome
    have answered := Run.snoc run hanswer
    have hresume (now : Nat) : Step moves now
        ⟨c, provider', out ++ [⟨operation, since, call, pending, none, some outcome⟩]⟩
        (.resumed operation since pending outcome turn)
        ⟨turn.cache, Provider.accessAll provider' turn.accesses,
          out ++ turn.result.outstanding operation since ++ []⟩ := .resume _ rfl rfl
    simp only [List.append_nil] at hresume
    obtain ⟨later, m', hrun, hends⟩ :=
      ih (answered.snoc (hresume _)) fun answer hanswer ↦ .afterCall hanswer
    rw [List.append_assoc log, List.append_assoc log] at hrun hends
    exact ⟨_, m', hrun, hends⟩

/-- An operation by itself makes up a run, and ends with its answer. -/
theorem Run.perform (run : Run moves start log s) (operation : Operation kind) :
    let performed := s.cache.perform s.provider operation
    ∃ later m, Run moves start (log ++ later ++ [m])
        ⟨performed.state, performed.provider, s.outstanding⟩ ∧
      m.deed.Ends (log ++ later).length operation log.length performed.answer :=
  (run.snoc (.begin s operation rfl)).carryOn fun _ hanswer ↦ .atOnce hanswer

end SettingsCache.Overlap
