import SettingsCache.Proofs.Accounting
import SettingsCache.Proofs.Handles.Kept
import SettingsCache.Proofs.Representation.Locked

/-!
# What always holds of a cache's state

Between any two turns of a cache, values and stems are kept under a tracker only, the tracker's slot
is one of the block, and its flag is lowered. A turn that adopts a tracker, or loses one, or gives
one up, or accepts another generation, leaves nothing but what it stores itself: whatever was kept
before is gone by then. `Overlap.Run.represented` says this of every run.
-/

namespace SettingsCache

/-! ## The store -/

namespace Store

/-- Values and stems are kept under a tracker only. -/
def Backed (s : Store) : Prop := s.tracker = none → s.values = ∅ ∧ s.stems = ∅

/-- The slot of the tracker is one that its handle shows. -/
def Within (length : Handle → Nat) (s : Store) : Prop :=
  ∀ t, s.tracker = some t → t.slot < length t.handle

/-- The store holds nothing but what the deed of a moment has stored in an empty one. -/
def Renewed (deed : Deed) (s : Store) : Prop :=
  s = { tracker := s.tracker } ∨
    ∃ k, deed.completion? = some k ∧ s = Store.keep { tracker := s.tracker } k.finding

theorem Backed.of_tracker {s : Store} {t : Tracker} (h : s.tracker = some t) : s.Backed := by
  intro hnone
  cases hnone.symm.trans h

theorem Within.of_untracked {length : Handle → Nat} {s : Store} (h : s.tracker = none) :
    s.Within length := by
  intro t ht
  cases h.symm.trans ht

end Store

/-- The tracker of a hand-over follows a slot of the block that was handed over. -/
theorem Completion.slot_lt {k : Completion} {t : Tracker} (h : k.tracker? = some t) :
    ∃ handOver, k.handOver = some handOver ∧ t.handle = handOver.handle ∧
      t.slot < handOver.length := by
  obtain ⟨handOver, hhandOver, ht⟩ := Option.bind_eq_some_iff.mp h
  obtain ⟨slot, hslot, rfl⟩ := Option.map_eq_some_iff.mp ht
  refine ⟨handOver, hhandOver, rfl, ?_⟩
  dsimp only [HandOver.slot?] at hslot
  split at hslot
  · cases hslot
    dsimp only
    omega
  · cases hslot

/-! ## One turn -/

section Turn

variable {s s' : Store} {accesses : List Access} {g : Option Generation}

theorem Checked.backed {caching : Bool} {view : BlockView}
    (h : Checked caching view s s' accesses g) (hs : s.Backed) : s'.Backed := by
  cases h with
  | skipped => exact hs
  | lost => exact fun _ ↦ ⟨rfl, rfl⟩
  | moved | steady => exact .of_tracker rfl

theorem Completed.backed {k : Completion} (h : Completed k s s' accesses g) (hs : s.Backed) :
    s'.Backed := by
  cases h with
  | foreign | late => exact hs
  | kept _ _ _ hg =>
    obtain ⟨t, ht, -⟩ := Option.map_eq_some_iff.mp hg
    exact .of_tracker ((Store.tracker_keep ..).trans ht)
  | adopted => exact .of_tracker (Store.tracker_keep ..)

theorem Checked.within {caching : Bool} {view : BlockView} {length : Handle → Nat}
    (h : Checked caching view s s' accesses g) (hs : s.Within length) : s'.Within length := by
  cases h with
  | skipped => exact hs
  | lost => exact .of_untracked rfl
  | moved _ ht | steady _ ht =>
    intro t' ht'
    obtain rfl := Option.some.inj ht'
    have hlt := hs _ ht
    exact hlt

theorem Completed.within {k : Completion} {length : Handle → Nat}
    (h : Completed k s s' accesses g) (hs : s.Within length)
    (hsized : ∀ handOver, k.handOver = some handOver →
      handOver.length = length handOver.handle) : s'.Within length := by
  intro t ht
  rcases h.tracker_eq ht with hold | hnew
  · exact hs t hold
  · obtain ⟨handOver, hhandOver, hhandle, hlt⟩ := Completion.slot_lt hnew
    rwa [hhandle, ← hsized handOver hhandOver]

end Turn

/-- The store of a cache is to be renewed at a moment: a tracker is adopted, or lost, or the cache
is told to give up what it holds, or another generation is accepted. -/
def Moment.renews {σ : Type} (m : Moment σ) (after : Store) : Prop :=
  m.deed.adopted?.isSome = true ∨ m.findsFault = true ∨ m.deed.isClearing = true ∨
    after.generation ≠ m.before.cache.store.generation

namespace Effect

variable {σ : Type} {s : Overlap σ} {view : BlockView} {out : List Outstanding} {deed : Deed}
  {store : Store}

theorem backed (h : Effect s.cache view out deed store) (hs : s.cache.store.Backed) :
    store.Backed := by
  cases h with
  | began h => exact h.checked.backed hs
  | completed _ _ h => exact h.backed hs
  | cleared => exact fun _ ↦ ⟨rfl, rfl⟩
  | quiet | noted | answered | moved => exact hs

/-- A moment at which the store is to be renewed leaves nothing in it but what is stored then. -/
theorem renewed (h : Effect s.cache view out deed store)
    (hrenews : (⟨s, deed⟩ : Moment σ).renews store) : store.Renewed deed := by
  unfold Moment.renews at hrenews
  cases h with
  | @began _ operation turn fetch h =>
    have hchecked := h.checked
    simp only [Moment.findsFault, Moment.check?, Deed.adopted?, Deed.completion?,
      Deed.isClearing] at hrenews
    generalize turn.accesses = accesses, turn.cache.store = store, fetch.observed = observed
      at hchecked hrenews ⊢
    cases hchecked with
    | lost | moved => exact .inl rfl
    | skipped hskipped =>
      cases hc : s.cache.checks operation with
      | false => simp [hc] at hrenews
      | true => simp [hc, hskipped hc] at hrenews
    | steady hc ht hview => simp [hc, ht, hview, Store.generation] at hrenews
  | @completed _ _ operation since _ pending _ outcome turn k _ hout hk h =>
    have hcompletion : (Deed.resumed operation since pending outcome turn).completion? =
        if k.fetch.caching then some k else none := Deed.completion?_resumed hk
    simp only [Moment.findsFault, Moment.check?, Deed.adopted?, hcompletion,
      Deed.isClearing] at hrenews
    generalize turn.accesses = accesses, turn.cache.store = store at h hrenews ⊢
    cases h with
    | foreign hc => simp [hc] at hrenews
    | late hc ht | kept hc ht => simp [hc, ht] at hrenews
    | adopted hc ht =>
      refine .inr ⟨k, ?_, ?_⟩
      · rw [hcompletion, if_pos hc]
      · rw [Store.tracker_keep]
  | quiet hk => simp [Moment.findsFault, Moment.check?, Deed.adopted?, Deed.completion?,
      Deed.isClearing, hk] at hrenews
  | cleared => exact .inl rfl
  | noted | answered | moved =>
    simp [Moment.findsFault, Moment.check?, Deed.adopted?, Deed.completion?, Deed.isClearing]
      at hrenews

end Effect

/-! ## Runs -/

/-- The hand-over that reaches the cache by the deed of a moment. -/
def Deed.handedOver? : Deed → Option HandOver
  | @answered verb _ outcome => verb.handOver? outcome
  | .began _ _ _ | .noted _ _ | .resumed _ _ _ _ _ | .cleared _ | .moved => none

namespace Overlap

variable {σ : Type}

/-- What is handed over tells how many slots its handle shows, and that number does not change. -/
def Sized (length : Handle → Nat) (log : List (Moment σ)) : Prop :=
  ∀ m ∈ log, ∀ handOver ∈ m.deed.handedOver?, handOver.length = length handOver.handle

instance (length : Handle → Nat) (log : List (Moment σ)) : Decidable (Sized length log) :=
  inferInstanceAs (Decidable (∀ m ∈ log, ∀ handOver ∈ m.deed.handedOver?, _))

theorem Sized.of_append {length : Handle → Nat} {log later : List (Moment σ)}
    (h : Sized length (log ++ later)) : Sized length log :=
  fun m hm ↦ h m (List.mem_append_left _ hm)

variable [Provider σ] {moves : σ → σ → Prop} {start s : Overlap σ} {log : List (Moment σ)}

theorem Run.backed (run : Run moves start log s) (fresh : start.Fresh) :
    s.cache.store.Backed := by
  induction run with
  | nil =>
    rw [fresh.store]
    exact fun _ ↦ ⟨rfl, rfl⟩
  | snoc run step ih => exact (step.effect (run.reporting fresh)).backed ih

/-- The tracker's slot is one of the block if the block does not change its length. -/
theorem Run.within (run : Run moves start log s) (fresh : start.Fresh) {length : Handle → Nat}
    (sized : Sized length log) : s.cache.store.Within length := by
  induction run with
  | nil => exact .of_untracked (congrArg _ fresh.store)
  | @snoc log s s' deed run step ih =>
    have hbefore := ih sized.of_append
    have heffect := step.effect (run.reporting fresh)
    generalize s'.cache.store = after at heffect ⊢
    cases heffect with
    | began h => exact h.checked.within hbefore
    | completed hout hk h =>
      refine h.within hbefore fun handOver hhandOver ↦ ?_
      obtain ⟨t, m, -, hm, -, hdeed, -⟩ := (run.sound fresh _ hout).answered _ rfl
      refine sized.of_append m (List.mem_of_getElem? hm) handOver ?_
      rw [hdeed, Deed.handedOver?, Pending.handOver_of_completion? hk]
      exact hhandOver
    | cleared => exact .of_untracked rfl
    | quiet | noted | answered | moved => exact hbefore

/-- What always holds of a cache's state between two turns. -/
structure Represented (moves : σ → σ → Prop) (closings : Nat → Closings) (log : List (Moment σ))
    (s : Overlap σ) : Prop where
  /-- Values and stems are kept under a tracker only. -/
  backed : s.cache.store.Backed
  /-- The tracker's slot is one of the block, if the block does not change its length. -/
  within {length : Handle → Nat} (sized : Sized length log) : s.cache.store.Within length
  /-- What lies behind the lock is the store, and the flag of its tracker is lowered. -/
  locked : (locked closings log).Holds s.cache.store
  /-- A turn in which the store is to be renewed leaves nothing in it but what the turn stores. -/
  renewed {deed : Deed} {s' : Overlap σ} (step : Step moves log.length s deed s')
    (hrenews : (⟨s, deed⟩ : Moment σ).renews s'.cache.store) : s'.cache.store.Renewed deed

/-- Whatever the provider does, however handles can be closed and however operations overlap, this
holds of the state of a cache between any two turns. -/
theorem Run.represented (run : Run moves start log s) (fresh : start.Fresh)
    (closings : Nat → Closings) : Represented moves closings log s where
  backed := run.backed fresh
  within := run.within fresh
  locked := run.locked fresh closings
  renewed step := (step.effect (run.reporting fresh)).renewed

/-- A lookup that is handed a tracker, a clearing, and a listing that is handed another. -/
def giveUpAndListAll : List Act :=
  [.begin (.lookup "wifi_on" .primary), .answer 0, .resume 0, .clear,
    .begin (.list "" .primary), .answer 0, .resume 0]

/-- With handles that cannot be closed, the flag of a tracker that was given up stays raised, and
that of the next one is lowered. -/
theorem represented_giveUpAndListAll :
    let played := seeded.play [] giveUpAndListAll
    let closings : Nat → Closings := fun _ _ ↦ .error .closed
    Represented (fun _ _ ↦ False) closings played.1 played.2 ∧
      played.2.cache.store.Within (fun _ ↦ Namespace.all.length) ∧
      (locked closings played.1).flags = #[true, false] ∧ played.2.cache.isTracking = true := by
  intro played closings
  have run : Run (fun _ _ ↦ False) seeded played.1 played.2 := Run.nil.play giveUpAndListAll
  have represented := run.represented fresh_seeded closings
  exact ⟨represented, represented.within (by decide +kernel), rfl, rfl⟩

end Overlap

end SettingsCache
