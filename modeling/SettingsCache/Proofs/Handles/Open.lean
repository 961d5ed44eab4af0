import SettingsCache.Proofs.Handles.Kept
import SettingsCache.Proofs.Session.Perform

/-!
# Open handles

What an operation by itself does to the handles that are open: it closes none but that of the
cache's own tracker and those that it is handed on the way, and the tracker that it leaves reads
through the old handle or through one that was not open before.
-/

namespace SettingsCache

/-- Whether a call asks for a hand-over. -/
def Call.track {verb : Verb} : Call verb → Bool
  | .get request => request.track
  | .list request => request.track
  | .put _ | .query _ _ | .reset _ => false

namespace Service

/-- A handle has been opened and not been closed since. -/
def Open (s : Service) (h : Handle) : Prop := s.block.isClosed h = false

variable {s : Service} {h : Handle}

theorem Open.getElem? (ho : s.Open h) : s.block.closed[h]? = some false := by
  unfold Open Faulty.isClosed at ho
  rw [Array.getD_eq_getD_getElem?] at ho
  cases hc : s.block.closed[h]? with
  | none =>
    rw [hc] at ho
    cases ho
  | some closed =>
    rw [hc] at ho
    exact congrArg some ho

theorem open_of_getElem? (hc : s.block.closed[h]? = some false) : s.Open h := by
  unfold Open Faulty.isClosed
  rw [Array.getD_eq_getD_getElem?, hc]
  rfl

/-- Only handles that have been opened are open. -/
theorem Open.lt (ho : s.Open h) : h < s.block.closed.size :=
  (Array.getElem?_eq_some_iff.mp ho.getElem?).1

theorem Open.of_closed_eq {t : Service} (ho : s.Open h)
    (hclosed : t.block.closed = s.block.closed) : t.Open h := by
  unfold Open Faulty.isClosed
  rw [hclosed]
  exact ho

/-- A call closes nothing. -/
theorem Open.serve (ho : s.Open h) (ns : Namespace) {verb : Verb} (call : Call verb) :
    (s.serve ns call).2.Open h := by
  have hclosed := closed_serve s ns call
  split at hclosed
  · apply open_of_getElem?
    rw [hclosed, Array.getElem?_push_lt ho.lt]
    exact (Array.getElem?_eq_getElem ho.lt).symm.trans ho.getElem?
  · exact ho.of_closed_eq hclosed

theorem Open.access (ho : s.Open h) {access : Access} (hne : access.closed? ≠ some h) :
    (s.access access).Open h := by
  cases access with
  | read => exact ho.of_closed_eq rfl
  | close handle =>
    apply open_of_getElem?
    have hhandle : handle ≠ h := fun heq ↦ hne (congrArg some heq)
    change (s.block.closed.setIfInBounds handle true)[h]? = some false
    rw [Array.getElem?_setIfInBounds_ne hhandle]
    exact ho.getElem?

theorem Open.accessAll (ho : s.Open h) {accesses : List Access}
    (hne : h ∉ accesses.filterMap Access.closed?) : (Provider.accessAll s accesses).Open h := by
  induction accesses generalizing s with
  | nil => exact ho
  | cons access rest ih =>
    have hone : access.closed? ≠ some h := by
      intro heq
      rw [List.filterMap_cons_some heq] at hne
      exact hne (List.mem_cons_self ..)
    apply ih (ho.access hone)
    intro hmem
    apply hne
    cases hclosed : access.closed? with
    | none =>
      rw [List.filterMap_cons_none hclosed]
      exact hmem
    | some handle =>
      rw [List.filterMap_cons_some hclosed]
      exact List.mem_cons_of_mem _ hmem

theorem size_accessAll (s : Service) (accesses : List Access) :
    (Provider.accessAll s accesses).block.closed.size = s.block.closed.size := by
  induction accesses generalizing s with
  | nil => rfl
  | cons access rest ih =>
    refine (ih (s.access access)).trans ?_
    cases access with
    | read => rfl
    | close => exact Array.size_setIfInBounds

theorem size_serve_le (s : Service) (ns : Namespace) {verb : Verb} (call : Call verb) :
    s.block.closed.size ≤ (s.serve ns call).2.block.closed.size := by
  rw [closed_serve]
  split
  · rw [Array.size_push]
    exact Nat.le_succ _
  · exact Nat.le_refl _

/-- Nothing is handed over that was not asked for. -/
theorem handOver?_answer (s : Service) (ns : Namespace) {verb : Verb} {call : Call verb}
    (noted : Option Generation) (h : call.track = false) :
    verb.handOver? (Provider.answer s ns call noted).1 = none := by
  have hnone {track : Bool} (htrack : track = false) (t : Service) (g : Generation) :
      (t.handOverIf track ns g).1 = none := by
    rw [htrack]
    rfl
  cases call with
  | get request =>
    have htrack : request.track = false := h
    cases noted with
    | some generation => exact hnone htrack ..
    | none =>
      change Verb.handOver? .get (s.serve ns (.get request)).1 = none
      rw [serve_get]
      dsimp only
      split
      · rfl
      · split
        · rfl
        · split
          · rfl
          · exact hnone htrack ..
  | list request =>
    have htrack : request.track = false := h
    cases noted with
    | some generation => exact hnone htrack ..
    | none =>
      change Verb.handOver? .list (s.serve ns (.list request)).1 = none
      rw [serve_list]
      dsimp only
      split
      · rfl
      · exact hnone htrack ..
  | query | put | reset => rfl

theorem handOver?_serve (s : Service) (ns : Namespace) {verb : Verb} {call : Call verb}
    (h : call.track = false) : verb.handOver? (s.serve ns call).1 = none :=
  s.handOver?_answer ns none h

/-- A handle that is handed over is new and open. -/
theorem open_handOver {ns : Namespace} {verb : Verb} {call : Call verb} {handOver : HandOver}
    (hh : verb.handOver? (s.serve ns call).1 = some handOver) :
    handOver.handle = s.block.closed.size ∧ (s.serve ns call).2.Open handOver.handle := by
  have hnew := (handsOver_serve hh).handle
  refine ⟨hnew, ?_⟩
  have hclosed := closed_serve s ns call
  rw [hh, Option.isSome_some, if_pos rfl] at hclosed
  apply open_of_getElem?
  rw [hclosed, hnew, Array.getElem?_push_size]

/-- What is read through an open handle. -/
theorem Open.view (ho : s.Open h) (hs : s.Slotted) (ns : Namespace) :
    s.block.view h ns.slot =
      if s.block.failReads then .error (.io "injected read failure")
      else .ok (s.generation ns) := by
  have hlt : ns.slot < s.block.slots.size := hs.symm ▸ ns.slot_lt
  unfold Faulty.view
  rw [ho]
  simp only [Bool.false_eq_true, if_false]
  split
  · rfl
  · unfold Slots.read generation Faulty.peek
    rw [Array.getD_eq_getD_getElem?, Array.getElem?_eq_getElem hlt]
    rfl

end Service

/-- What has become of handles, from one store and service to another. All that were open still are,
but for the tracker's. The tracker's handle is the old one or is new, and it is open if it is new or
was open. -/
structure Store.Minds (a : Store) (s : Service) (b : Store) (t : Service) : Prop where
  spared : ∀ h, s.Open h → h ∉ a.owned → t.Open h
  taken : ∀ h ∈ b.owned, h ∈ a.owned ∨ s.block.closed.size ≤ h
  opened : ∀ h ∈ b.owned, (h ∈ a.owned → s.Open h) → t.Open h
  size : s.block.closed.size ≤ t.block.closed.size

namespace Store

variable {a b c : Store} {s t u : Service}

theorem Minds.trans (h : a.Minds s b t) (h' : b.Minds t c u) : a.Minds s c u where
  spared handle ho hne := by
    refine h'.spared handle (h.spared handle ho hne) ?_
    intro hmem
    exact (h.taken handle hmem).elim hne fun hnew ↦ absurd ho.lt (Nat.not_lt.mpr hnew)
  taken handle hmem := by
    rcases h'.taken handle hmem with hold | hnew
    · exact h.taken handle hold
    · exact .inr (Nat.le_trans h.size hnew)
  opened handle hmem ho := h'.opened handle hmem fun hold ↦ h.opened handle hold ho
  size := Nat.le_trans h.size h'.size

/-- A store has one handle at most. -/
theorem owned_eq_nil_or (s : Store) : s.owned = [] ∨ ∃ h, s.owned = [h] := by
  unfold owned
  cases s.tracker with
  | none => exact .inl rfl
  | some t => exact .inr ⟨_, rfl⟩

end Store

/-- A check closes the handle of the tracker only. -/
theorem Checked.minds {caching : Bool} {view : BlockView} {a b : Store} {accesses : List Access}
    {g : Option Generation} (h : Checked caching view a b accesses g) (s : Service) :
    a.Minds s b (Provider.accessAll s accesses) := by
  have howned := h.owned_eq
  have hold : ∀ handle ∈ b.owned, handle ∈ a.owned := by
    intro handle hmem
    rw [howned]
    exact List.mem_append_right _ hmem
  refine ⟨?_, fun handle hmem ↦ .inl (hold handle hmem), ?_,
    Nat.le_of_eq (Service.size_accessAll ..).symm⟩
  · intro handle ho hne
    apply ho.accessAll
    intro hmem
    apply hne
    rw [howned]
    exact List.mem_append_left _ hmem
  · intro handle hmem ho
    have hmem' := hold handle hmem
    apply (ho hmem').accessAll
    intro hclosed
    -- The one handle that there is cannot be both given up and kept.
    rcases a.owned_eq_nil_or with hnil | ⟨only, hsingle⟩
    · rw [hnil] at hmem'
      exact absurd hmem' List.not_mem_nil
    · rw [hsingle] at howned
      have hlength := congrArg List.length howned
      rw [List.length_append, List.length_singleton] at hlength
      have hpos := List.length_pos_of_mem hmem
      have hpos' := List.length_pos_of_mem hclosed
      omega

/-- A completion closes what was handed over, or the handle of the tracker that it replaces. -/
theorem Completed.minds {k : Completion} {a b : Store} {accesses : List Access}
    {told : Option Generation} (h : Completed k a b accesses told) {s t : Service}
    (hkept : ∀ h, s.Open h → t.Open h) (hsize : s.block.closed.size ≤ t.block.closed.size)
    (hnew : ∀ h ∈ HandOver.handles k.handOver, s.block.closed.size ≤ h ∧ t.Open h) :
    a.Minds s b (Provider.accessAll t accesses) := by
  have hsize' : s.block.closed.size ≤ (Provider.accessAll t accesses).block.closed.size :=
    Nat.le_trans hsize (Nat.le_of_eq (Service.size_accessAll ..).symm)
  have hreleased (handle : Handle) (ho : s.Open handle) :
      (Provider.accessAll t k.release).Open handle := by
    apply (hkept handle ho).accessAll
    rw [k.closed_release]
    exact fun hmem ↦ absurd ho.lt (Nat.not_lt.mpr (hnew handle hmem).1)
  cases h with
  | foreign | late =>
    exact ⟨fun handle ho _ ↦ hreleased handle ho, fun _ ↦ .inl,
      fun handle hmem ho ↦ hreleased handle (ho hmem), hsize'⟩
  | kept =>
    refine ⟨fun handle ho _ ↦ hreleased handle ho, ?_, ?_, hsize'⟩
    all_goals rw [Store.owned_keep]
    · exact fun _ ↦ .inl
    · exact fun handle hmem ho ↦ hreleased handle (ho hmem)
  | @adopted tracker hc ht =>
    have hclosed := a.closed_release
    have hadopted : ∀ handle ∈ (Store.keep { tracker := some tracker } k.finding).owned,
        s.block.closed.size ≤ handle ∧ t.Open handle := by
      rw [Store.owned_keep]
      intro handle hmem
      obtain ⟨handOver, hhandOver, htracker⟩ := Option.bind_eq_some_iff.mp ht
      obtain ⟨slot, -, rfl⟩ := Option.map_eq_some_iff.mp htracker
      apply hnew
      rw [hhandOver]
      exact hmem
    refine ⟨?_, fun handle hmem ↦ .inr (hadopted handle hmem).1, ?_, hsize'⟩
    · intro handle ho hne
      apply (hkept handle ho).accessAll
      rw [hclosed]
      exact hne
    · intro handle hmem ho
      obtain ⟨hle, hopen⟩ := hadopted handle hmem
      apply hopen.accessAll
      rw [hclosed]
      exact fun hold ↦ absurd (ho hold).lt (Nat.not_lt.mpr hle)

namespace Cache

variable {c : Cache} {s : Service} {kind : Kind}

theorem minds_resume (c : Cache) (s : Service) {verb : Verb} (call : Call verb)
    (pending : Pending verb kind) :
    let served := s.serve c.ns call
    let turn := c.resume pending served.1
    c.store.Minds s turn.cache.store (Provider.accessAll served.2 turn.accesses) := by
  intro served turn
  have hsize := Service.size_serve_le s c.ns call
  cases resumed (Eq.refl turn) with
  | quiet _ hquiet =>
    have hstore : turn.cache.store = c.store := hquiet.store
    have haccesses : turn.accesses = [] := hquiet.accesses
    rw [haccesses, hstore]
    exact ⟨fun handle ho _ ↦ ho.serve c.ns call, fun _ ↦ .inl,
      fun handle hmem ho ↦ (ho hmem).serve c.ns call, hsize⟩
  | @completed k told hk hcompleted _ =>
    refine hcompleted.minds (fun handle ho ↦ ho.serve c.ns call) hsize ?_
    intro handle hmem
    obtain ⟨handOver, hhandOver, rfl⟩ := List.mem_map.mp hmem
    rw [Option.mem_toList] at hhandOver
    obtain ⟨hnew, ho⟩ :=
      Service.open_handOver ((Pending.handOver_of_completion? hk).trans hhandOver)
    exact ⟨Nat.le_of_eq hnew.symm, ho⟩

/-- An operation by itself minds the handles. -/
theorem minds_perform (hr : c.store.Reporting) (s : Service) (operation : Operation kind) :
    c.store.Minds s (c.perform s operation).state.store (c.perform s operation).provider := by
  obtain ⟨fetch, hstart⟩ := starts (Eq.refl (c.start (Provider.view s) operation)) hr
  refine carryOn_invariant (P := fun c' (t : Service) _ ↦ c.store.Minds s c'.store t) ?_
    (hstart.checked.minds s)
  exact fun c' t _ call pending h ↦ h.trans (minds_resume c' t call pending)

/-- An operation by itself leaves a tracker that follows the counter of the namespace. -/
theorem slot_perform (hr : c.store.Reporting) (hs : s.Slotted)
    (hindex : Service.OwnIndex c.ns s.trackerIndex)
    (hslot : ∀ t, c.store.tracker = some t → t.slot = c.ns.slot) (operation : Operation kind) :
    ∀ t, (c.perform s operation).state.store.tracker = some t → t.slot = c.ns.slot := by
  obtain ⟨fetch, hstart⟩ := starts (Eq.refl (c.start (Provider.view s) operation)) hr
  refine (carryOn_invariant (P := fun c' (s' : Service) _ ↦ c'.ns = c.ns ∧
    s'.setup = s.setup ∧ ∀ t, c'.store.tracker = some t → t.slot = c.ns.slot) ?_ ?_).2.2
  · intro c' s' verb call pending h
    obtain ⟨hns, hsetup, hslot'⟩ := h
    have hserved := (Service.setup_serve s' c'.ns call).trans hsetup
    refine ⟨(ns_of_identity (c'.identity_resume pending _).1).trans hns, ?_, ?_⟩
    · exact (Service.setup_of_contents (Service.contents_accessAll ..)).trans hserved
    · intro t ht
      cases resumed (Eq.refl (c'.resume pending (s'.serve c'.ns call).1)) with
      | quiet _ hquiet =>
        have hstore : (c'.resume pending (s'.serve c'.ns call).1).cache.store = c'.store :=
          hquiet.store
        exact hslot' t ((congrArg Store.tracker hstore).symm.trans ht)
      | @completed k told hk hcompleted _ =>
        rcases hcompleted.tracker_eq ht with hold | hnew
        · exact hslot' t hold
        · obtain ⟨handOver, hhandOver, htracker⟩ := Option.bind_eq_some_iff.mp hnew
          have hh := Service.handsOver_serve
            ((Pending.handOver_of_completion? hk).trans hhandOver)
          have hset := Service.trackerIndex_of_setup hsetup
          rw [hns] at hh
          exact hh.slot_eq (Service.slotted_of_setup hsetup hs) (hset ▸ hindex) htracker
  · refine ⟨ns_of_identity hstart.identity,
      Service.setup_of_contents (Service.contents_accessAll ..), ?_⟩
    intro t ht
    obtain ⟨t', ht', hsame, -⟩ := hstart.checked.tracker_eq ht
    exact hsame.trans (hslot t' ht')

end Cache

end SettingsCache
