import SettingsCache.Proofs.Overlap.Basic

/-!
# Schedules

A schedule says what happens next, one act after another, while the provider does not change by
itself. Playing it gives the log and the state that it leads to, and these make up a run.
-/

namespace SettingsCache

/-- What a schedule can have happen next. Calls that are out are known by their place. -/
inductive Act where
  | begin {kind : Kind} (operation : Operation kind)
  | note (place : Nat)
  | answer (place : Nat)
  | resume (place : Nat)
  | clear

namespace Overlap

variable {σ : Type} [Provider σ]

/-- Do one act: what happens, and how things stand afterwards, if the act is possible. -/
def act? (s : Overlap σ) (now : Nat) : Act → Option (Deed × Overlap σ)
  | .begin operation =>
    let turn := s.cache.start (Provider.view s.provider) operation
    some (.began operation (Provider.view s.provider) turn,
      s.settle turn (s.outstanding ++ turn.result.outstanding operation now))
  | .note place =>
    match s.outstanding[place]? with
    | some ⟨operation, since, call, pending, none, none⟩ =>
      match Provider.note? s.provider s.cache.ns call with
      | some (generation, provider) =>
        some (.noted call generation, ⟨s.cache, provider, s.outstanding.take place ++
          ⟨operation, since, call, pending, some generation, none⟩ ::
            s.outstanding.drop (place + 1)⟩)
      | none => none
    | _ => none
  | .answer place =>
    match s.outstanding[place]? with
    | some ⟨operation, since, call, pending, noted, none⟩ =>
      let answered := Provider.answer s.provider s.cache.ns call noted
      some (.answered call answered.1, ⟨s.cache, answered.2, s.outstanding.take place ++
        ⟨operation, since, call, pending, noted, some answered.1⟩ ::
          s.outstanding.drop (place + 1)⟩)
    | _ => none
  | .resume place =>
    match s.outstanding[place]? with
    | some ⟨operation, since, _, pending, _, some outcome⟩ =>
      let turn := s.cache.resume pending outcome
      some (.resumed operation since pending outcome turn,
        s.settle turn (s.outstanding.take place ++ turn.result.outstanding operation since ++
          s.outstanding.drop (place + 1)))
    | _ => none
  | .clear => some (.cleared s.cache.clear, s.settle s.cache.clear s.outstanding)

/-- Do one act after another, leaving out those that are not possible. -/
def play (s : Overlap σ) (log : List (Moment σ)) : List Act → List (Moment σ) × Overlap σ
  | [] => (log, s)
  | act :: rest =>
    match s.act? log.length act with
    | some (deed, s') => s'.play (log ++ [⟨s, deed⟩]) rest
    | none => s.play log rest

variable {moves : σ → σ → Prop} {start s s' : Overlap σ} {log : List (Moment σ)} {deed : Deed}

/-- A list falls apart at each of its places. -/
private theorem eq_take_append_cons {α : Type} {l : List α} {place : Nat} {a : α}
    (h : l[place]? = some a) : l = l.take place ++ a :: l.drop (place + 1) := by
  obtain ⟨hlt, rfl⟩ := List.getElem?_eq_some_iff.mp h
  rw [← List.drop_eq_getElem_cons hlt, List.take_append_drop]

theorem Step.of_act? {now : Nat} {act : Act} (h : s.act? now act = some (deed, s')) :
    Step moves now s deed s' := by
  cases act with
  | begin operation =>
    cases h
    exact .begin s operation rfl
  | note place =>
    dsimp only [act?] at h
    split at h
    · next hplace =>
      split at h
      · next hnote =>
        cases h
        exact .note s (eq_take_append_cons hplace) hnote
      · cases h
    · cases h
  | answer place =>
    dsimp only [act?] at h
    split at h
    · next hplace =>
      cases h
      exact .answer s (eq_take_append_cons hplace) rfl
    · cases h
  | resume place =>
    dsimp only [act?] at h
    split at h
    · next hplace =>
      cases h
      exact .resume s (eq_take_append_cons hplace) rfl
    · cases h
  | clear =>
    cases h
    exact .clear s

/-- A run that goes on by a schedule is a run. -/
theorem Run.play (run : Run moves start log s) (schedule : List Act) :
    Run moves start (s.play log schedule).1 (s.play log schedule).2 := by
  induction schedule generalizing log s with
  | nil => exact run
  | cons act rest ih =>
    unfold Overlap.play
    split
    · next h => exact ih (run.snoc (Step.of_act? h))
    · exact ih run

/-- A new cache of the primary user over the seeded service. -/
def seeded : Overlap Service :=
  ⟨{ ns := .global, owner := .primary, config := {} }, Service.seeded, []⟩

theorem fresh_seeded : seeded.Fresh := ⟨rfl, rfl⟩

end Overlap

end SettingsCache
