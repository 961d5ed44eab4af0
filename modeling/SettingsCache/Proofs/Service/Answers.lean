import SettingsCache.Proofs.NameMap
import SettingsCache.Proofs.Service.Change

/-!
# What the service answers

A reply of the service says what the service holds at that moment. A hand-over carries the
generation that was noted for the call, or else the value that the counter has at that moment.
-/

namespace SettingsCache.Service

/-- A hand-over of the service for a namespace, at a generation. -/
structure HandsOver (s : Service) (ns : Namespace) (generation : Generation) (h : HandOver) :
    Prop where
  handle : h.handle = s.block.closed.size
  length : h.length = s.block.slots.size
  index : h.index = s.trackerIndex.getD (Int32.ofNat ns.slot)
  generation_eq : h.generation = generation

theorem handsOver_handOverIf {s : Service} {track : Bool} {ns : Namespace}
    {generation : Generation} {h : HandOver}
    (hh : (s.handOverIf track ns generation).1 = some h) : s.HandsOver ns generation h := by
  unfold handOverIf handOver at hh
  split at hh
  · split at hh
    · cases hh
    · cases hh
      exact ⟨rfl, rfl, rfl, rfl⟩
  · cases hh

/-- The tracker of a hand-over is given the namespace's own slot. -/
theorem HandsOver.slot_eq {s : Service} {ns : Namespace} {generation : Generation}
    {h : HandOver} (hh : s.HandsOver ns generation h)
    (hslotted : s.Slotted) (hindex : OwnIndex ns s.trackerIndex) {t : Tracker}
    (ht : Tracker.ofHandOver? h = some t) : t.slot = ns.slot := by
  obtain ⟨slot, hslot, rfl⟩ := Option.map_eq_some_iff.mp ht
  simp only [HandOver.slot?, hh.length, hh.index] at hslot
  rw [hslotted] at hslot
  split at hslot
  · next hrange =>
    cases hslot
    cases hset : s.trackerIndex with
    | none => cases ns <;> rfl
    | some i =>
      rw [hset, Option.getD_some] at hrange
      have hown := hindex i hset hrange.1 hrange.2
      rw [Option.getD_some, hown]
      rfl
  · cases hslot

/-- The tracker of a hand-over follows the namespace's own counter from the generation on. -/
theorem HandsOver.tracker {s : Service} {ns : Namespace} {generation : Generation} {h : HandOver}
    (hh : s.HandsOver ns generation h) (assigns : s.Assigns ns) {t : Tracker}
    (ht : Tracker.ofHandOver? h = some t) : t.slot = ns.slot ∧ t.accepted = generation := by
  refine ⟨hh.slot_eq assigns.slotted assigns.index ht, ?_⟩
  obtain ⟨slot, -, rfl⟩ := Option.map_eq_some_iff.mp ht
  exact hh.generation_eq

/-- A fast read replies with the value that the service holds. -/
theorem get_reply {s : Service} {ns : Namespace} {request : GetRequest} {reply : GetReply}
    (noted : Option Generation)
    (h : (Provider.answer s ns (.get request) noted).1 = .ok (some reply)) :
    reply.value = s.value ns (s.requestUser request.user) request.name ∧
      ∀ handOver, reply.handOver = some handOver →
        s.HandsOver ns (noted.getD (s.generation ns)) handOver := by
  cases noted with
  | some generation =>
    cases h
    exact ⟨rfl, fun _ ↦ handsOver_handOverIf⟩
  | none =>
    change (s.serve ns (.get request)).1 = _ at h
    dsimp only [serve, get] at h
    split at h
    · exact nomatch h
    · split at h
      · exact nomatch h
      · split at h
        · cases h
        · cases h
          refine ⟨rfl, fun handOver hh ↦ ?_⟩
          have hands := handsOver_handOverIf hh
          exact ⟨hands.handle, hands.length, hands.index, hands.generation_eq⟩

/-- A query finds the value that the service holds, under the name that was asked for. -/
theorem query_row {s : Service} {ns : Namespace} {name : String} {user : Option UserId}
    {row : Option Row} (named : s.hasFault .misnamedQueryRows = false)
    (noted : Option Generation)
    (h : (Provider.answer s ns (.query name user) noted).1 = .ok row) :
    (row.filter fun row ↦ row.name == name).bind Row.value =
      s.value ns (s.requestUser user) name := by
  have hnamed : (s.heard ns (.query name user)).hasFault .misnamedQueryRows = false := named
  -- A query is answered in the same way whatever was noted.
  replace h : (s.query ns name user).1 = .ok row := by cases noted <;> exact h
  dsimp only [query] at h
  split at h
  · exact nomatch h
  · cases h
    simp only [hnamed, Bool.false_eq_true, ite_false]
    change (((s.entry? ns (s.requestUser user) name).map _).filter _).bind _ =
      (s.entry? ns (s.requestUser user) name).bind Entry.value
    cases s.entry? ns (s.requestUser user) name with
    | none => rfl
    | some e =>
      have hrow : (Option.filter (fun row : Row ↦ row.name == name) (some ⟨name, e.value⟩)) =
          some ⟨name, e.value⟩ := by rw [Option.filter_some, if_pos (beq_self_eq_true name)]
      exact congrArg (·.bind Row.value) hrow

/-- A listing holds what the service holds under the names with the stem. -/
theorem list_reply {s : Service} {ns : Namespace} {request : ListRequest} {reply : ListReply}
    (noted : Option Generation)
    (h : (Provider.answer s ns (.list request) noted).1 = .ok reply) :
    (∀ name, reply.values[name]? =
        if hasStem request.stem name then s.value ns (s.requestUser request.user) name else none) ∧
      ∀ handOver, reply.handOver = some handOver →
        s.HandsOver ns (noted.getD (s.generation ns)) handOver := by
  have hvalues (name : String) :
      ((NameMap.withStem (s.table ns (s.requestUser request.user)) request.stem).select
        Entry.value)[name]? =
      if hasStem request.stem name then s.value ns (s.requestUser request.user) name else none := by
    rw [NameMap.getElem?_select, NameMap.getElem?_withStem]
    split <;> rfl
  cases noted with
  | some generation =>
    cases h
    exact ⟨hvalues, fun _ ↦ handsOver_handOverIf⟩
  | none =>
    change (s.serve ns (.list request)).1 = _ at h
    dsimp only [serve, list] at h
    split at h
    · exact nomatch h
    · cases h
      refine ⟨hvalues, fun handOver hh ↦ ?_⟩
      have hands := handsOver_handOverIf hh
      exact ⟨hands.handle, hands.length, hands.index, hands.generation_eq⟩

end SettingsCache.Service
