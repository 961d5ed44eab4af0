import SettingsCache.Proofs.NameMap
import SettingsCache.Proofs.Overlap.Turn

/-!
# How an answered read is completed

The answer to a read brings a finding, which is kept under the generation that the read knows of,
and perhaps a hand-over. `Completed` lists the ways in which the cache can take the two.
-/

namespace SettingsCache

/-! ## Findings -/

/-- What an answered read has found. -/
inductive Finding where
  /-- The value of one name. -/
  | value (name : String) (value : Option String)
  /-- The set values under the names with a stem. -/
  | listing (stem : String) (values : NameMap String)

/-- What a finding says of a name, if it says anything. -/
def Finding.of? (name : String) : Finding → Option (Option String)
  | .value found text => if found = name then some text else none
  | .listing _ values => values[name]?.map some

namespace Store

/-- Keep a finding. -/
def keep (s : Store) : Finding → Store
  | .value name value => s.keepValue name value
  | .listing stem values => s.keepListing stem values

@[simp] theorem tracker_keep (s : Store) (finding : Finding) :
    (s.keep finding).tracker = s.tracker := by
  cases finding <;> rfl

@[simp] theorem generation_keep (s : Store) (finding : Finding) :
    (s.keep finding).generation = s.generation := by
  simp only [generation, tracker_keep]

/-- What a finding says of a name replaces what was known of it. -/
@[simp] theorem getElem?_values_keep (s : Store) (finding : Finding) (name : String) :
    (s.keep finding).values[name]? = (finding.of? name).or s.values[name]? := by
  cases finding with
  | value found value =>
    simp only [keep, keepValue, Finding.of?, Std.ExtTreeMap.getElem?_insert]
    by_cases h : found = name <;> simp [h]
  | listing stem values =>
    simp only [keep, keepListing, Finding.of?, NameMap.getElem?_insertAll,
      Std.ExtTreeMap.getElem?_map]

/-- Only a listing adds a stem, and it adds its own. -/
theorem contains_stems_keep {s : Store} {finding : Finding} {stem : String}
    (h : (s.keep finding).stems.contains stem) :
    (∃ values, finding = .listing stem values) ∨ s.stems.contains stem := by
  cases finding with
  | value name value => exact .inr h
  | listing listed values =>
    simp only [keep, keepListing, Std.ExtTreeSet.contains_insert, Bool.or_eq_true,
      beq_iff_eq] at h
    rcases h with h | h
    · have hs : listed = stem := Std.LawfulEqOrd.eq_of_compare h
      exact .inl ⟨values, by rw [hs]⟩
    · exact .inr h

end Store

/-! ## Completions -/

/-- A read together with the answer that completes it. -/
structure Completion where
  fetch : Fetch
  handOver : Option HandOver
  finding : Finding

namespace Completion

/-- The tracker that the hand-over starts, if there is a hand-over and it can start one. -/
def tracker? (k : Completion) : Option Tracker :=
  k.handOver.bind fun handOver ↦ Tracker.ofHandOver? handOver

/-- The generation that the finding is known to go with: the one handed over with it, if that is
tracked now, and otherwise the one observed before the call. -/
def known (k : Completion) : Option Generation :=
  (k.tracker?.map Tracker.accepted).or k.fetch.observed

/-- Close the handle of the hand-over, if there is one. -/
def release (k : Completion) : List Access :=
  k.handOver.toList.map fun handOver ↦ .close handOver.handle

end Completion

/-- Close the tracker's handle, if there is a tracker. -/
def Store.release (s : Store) : List Access :=
  s.tracker.toList.map fun tracker ↦ .close tracker.handle

/-- The ways in which a cache can take an answer: the store before and after, what is done to the
block, and the generation that the answer is told to go with. -/
inductive Completed (k : Completion) (s : Store) :
    Store → List Access → Option Generation → Prop
  /-- The read may not use the store. -/
  | foreign (hc : k.fetch.caching = false) : Completed k s s k.release none
  /-- There is nothing to adopt, and the generation is not the observed one any more. -/
  | late (hc : k.fetch.caching = true) (ht : k.tracker? = none)
      (hg : s.generation = none ∨ s.generation ≠ k.fetch.observed) : Completed k s s k.release none
  /-- There is nothing to adopt, and the generation is still the observed one. -/
  | kept {g : Generation} (hc : k.fetch.caching = true) (ht : k.tracker? = none)
      (ho : k.fetch.observed = some g) (hg : s.generation = some g) :
      Completed k s (s.keep k.finding) k.release (some g)
  /-- A new tracker is adopted. -/
  | adopted {t : Tracker} (hc : k.fetch.caching = true) (ht : k.tracker? = some t) :
      Completed k s (Store.keep { tracker := some t } k.finding) s.release (some t.accepted)

/-- A tracker that was handed over reports its failures. -/
theorem Completion.reporting_of_tracker? {k : Completion} {t : Tracker}
    (h : k.tracker? = some t) : t.reporting = true := by
  obtain ⟨handOver, -, h⟩ := Option.bind_eq_some_iff.mp h
  obtain ⟨slot, -, rfl⟩ := Option.map_eq_some_iff.mp h
  rfl

/-- After a completion the tracker is what it was, or it is the one that was handed over. -/
theorem Completed.tracker_eq {k : Completion} {s s' : Store} {accesses : List Access}
    {g : Option Generation} {t : Tracker} (h : Completed k s s' accesses g)
    (ht : s'.tracker = some t) : s.tracker = some t ∨ k.tracker? = some t := by
  cases h with
  | foreign | late => exact .inl ht
  | kept =>
    rw [Store.tracker_keep] at ht
    exact .inl ht
  | adopted hc hadopted =>
    rw [Store.tracker_keep] at ht
    cases ht
    exact .inr hadopted

/-- An answer is told to go with the generation handed over, if that is tracked now, and otherwise
with the one observed before the call. -/
theorem Completed.told_eq {k : Completion} {s s' : Store} {accesses : List Access}
    {g : Generation} (h : Completed k s s' accesses (some g)) :
    k.fetch.caching = true ∧ ((∃ t, k.tracker? = some t ∧ t.accepted = g) ∨
      k.tracker? = none ∧ k.fetch.observed = some g) := by
  cases h with
  | kept hc ht ho => exact ⟨hc, .inr ⟨ht, ho⟩⟩
  | adopted hc ht => exact ⟨hc, .inl ⟨_, ht, rfl⟩⟩

/-- A tracker that is handed over is adopted, with the finding, by a read that may use the store. -/
theorem Completed.eq_of_adopted {k : Completion} {s s' : Store} {accesses : List Access}
    {g : Option Generation} (h : Completed k s s' accesses g) (hc : k.fetch.caching = true)
    {t : Tracker} (ht : k.tracker? = some t) :
    s' = Store.keep { tracker := some t } k.finding ∧ accesses = s.release := by
  cases h with
  | foreign hc' => cases hc.symm.trans hc'
  | late _ ht' | kept _ ht' => cases ht.symm.trans ht'
  | adopted _ ht' =>
    obtain rfl := Option.some.inj (ht.symm.trans ht')
    exact ⟨rfl, rfl⟩

/-- Without a tracker to adopt, the finding is kept if the generation is still the observed one. -/
theorem Completed.eq_of_kept {k : Completion} {s s' : Store} {accesses : List Access}
    {told : Option Generation} (h : Completed k s s' accesses told) (hc : k.fetch.caching = true)
    (ht : k.tracker? = none) {g : Generation} (ho : k.fetch.observed = some g)
    (hg : s.generation = some g) : s' = s.keep k.finding ∧ accesses = k.release := by
  cases h with
  | foreign hc' => cases hc.symm.trans hc'
  | late _ _ hmoved =>
    rcases hmoved with hnone | hne
    · cases hnone.symm.trans hg
    · exact absurd (hg.trans ho.symm) hne
  | kept => exact ⟨rfl, rfl⟩
  | adopted _ ht' => cases ht.symm.trans ht'

/-- A completion leaves a store that reports its failures. -/
theorem Completed.reporting {k : Completion} {s s' : Store} {accesses : List Access}
    {g : Option Generation} (h : Completed k s s' accesses g) (hr : s.Reporting) :
    s'.Reporting := by
  intro t ht
  rcases h.tracker_eq ht with hold | hnew
  · exact hr t hold
  · exact Completion.reporting_of_tracker? hnew

namespace Cache

@[simp] theorem identity_adopt? (c : Cache) (handOver : Option HandOver) :
    (c.adopt? handOver).cache.identity = c.identity := by
  cases handOver with
  | none => rfl
  | some handOver =>
    dsimp only [adopt?, adopt]
    split <;> rfl

@[simp] theorem identity_complete (c : Cache) (fetch : Fetch) (handOver : Option HandOver)
    (keep : Store → Store) : (c.complete fetch handOver keep).cache.identity = c.identity := by
  unfold complete
  split
  · dsimp only [Turn.bind]
    split <;> exact identity_adopt? c handOver
  · rfl

/-- Without a tracker in the hand-over, the cache stays as it was and the hand-over is closed. -/
theorem adopt?_of_none (c : Cache) {fetch : Fetch} {handOver : Option HandOver}
    {finding : Finding} (h : Completion.tracker? ⟨fetch, handOver, finding⟩ = none) :
    c.adopt? handOver = ⟨c, Completion.release ⟨fetch, handOver, finding⟩, none⟩ := by
  cases handOver with
  | none => rfl
  | some handOver =>
    have h' : Tracker.ofHandOver? handOver = none := h
    simp only [adopt?, adopt, h', Completion.release, Option.toList, List.map]

/-- A tracker in the hand-over takes the place of all that the store held. -/
theorem adopt?_of_some (c : Cache) {fetch : Fetch} {handOver : Option HandOver}
    {finding : Finding} {t : Tracker}
    (h : Completion.tracker? ⟨fetch, handOver, finding⟩ = some t) :
    c.adopt? handOver =
      ⟨{ c with store := { tracker := some t } }.record .trackerInstalled, c.store.release,
        some t.accepted⟩ := by
  cases handOver with
  | none => cases h
  | some handOver =>
    have h' : Tracker.ofHandOver? handOver = some t := h
    have hg : handOver.generation = t.accepted := by
      obtain ⟨slot, -, rfl⟩ := Option.map_eq_some_iff.mp h'
      rfl
    simp only [adopt?, adopt, h', hg]
    rfl

theorem complete_completed (c : Cache) (fetch : Fetch) (handOver : Option HandOver)
    (finding : Finding) :
    let turn := c.complete fetch handOver fun store ↦ store.keep finding
    Completed ⟨fetch, handOver, finding⟩ c.store turn.cache.store turn.accesses turn.result := by
  intro turn
  cases hc : fetch.caching with
  | false =>
    have hturn : turn = ⟨c, Completion.release ⟨fetch, handOver, finding⟩, none⟩ := by
      simp only [turn, complete, hc, Bool.false_eq_true, ite_false]
      rfl
    rw [hturn]
    exact .foreign hc
  | true =>
    cases ht : Completion.tracker? ⟨fetch, handOver, finding⟩ with
    | none =>
      simp only [turn, complete, hc, ite_true, Turn.bind, adopt?_of_none c ht, Option.none_or]
      cases hg : c.generation with
      | none =>
        simp only [Option.isSome_none, Bool.false_and, Bool.false_eq_true, ite_false,
          List.append_nil]
        exact .late hc ht (.inl hg)
      | some g =>
        by_cases ho : some g = fetch.observed
        · simp only [← ho, Option.isSome_some, beq_self_eq_true, Bool.and_self, ite_true,
            List.append_nil]
          exact .kept hc ht ho.symm hg
        · have hne : (some g == fetch.observed) = false := beq_eq_false_iff_ne.mpr ho
          simp only [Option.isSome_some, hne, Bool.and_false, Bool.false_eq_true, ite_false,
            List.append_nil]
          refine .late hc ht (.inr ?_)
          change c.generation ≠ fetch.observed
          rw [hg]
          exact ho
    | some t =>
      have hg : (Store.generation { tracker := some t }) = some t.accepted := rfl
      simp only [turn, complete, hc, ite_true, Turn.bind, adopt?_of_some c ht, generation,
        store_record, hg, Option.isSome_some, Option.some_or, beq_self_eq_true, Bool.and_self,
        List.append_nil]
      exact .adopted hc ht

end Cache

/-! ## Later turns -/

namespace Pending

/-- What a read remembers while its call is out. -/
def fetch? {verb : Verb} {kind : Kind} : Pending verb kind → Option Fetch
  | .get _ fetch | .query _ fetch | .list _ fetch => some fetch
  | .put | .reset => none

/-- The completion of a read by what its call came to, if that completes it. A row under another
name than the one asked for says that the name is unset. -/
def completion? {verb : Verb} {kind : Kind} (pending : Pending verb kind)
    (outcome : verb.Outcome) : Option Completion :=
  match pending, outcome with
  | .get name fetch, .ok (some reply) => some ⟨fetch, reply.handOver, .value name reply.value⟩
  | .query name fetch, .ok row =>
    some ⟨fetch, none, .value name ((row.filter fun row ↦ row.name == name).bind Row.value)⟩
  | .list stem fetch, .ok reply => some ⟨fetch, reply.handOver, .listing stem reply.values⟩
  | .get _ _, .ok none | .get _ _, .error _ | .query _ _, .error _ | .list _ _, .error _ => none
  | .put, _ | .reset, _ => none

/-- The answers that complete a read, each with the completion. -/
inductive Completes : {verb : Verb} → {kind : Kind} → Pending verb kind → verb.Outcome →
    Completion → Prop
  | get {name : String} {fetch : Fetch} {reply : GetReply} :
      Completes (.get name fetch) (.ok (some reply))
        ⟨fetch, reply.handOver, .value name reply.value⟩
  | query {name : String} {fetch : Fetch} {row : Option Row} :
      Completes (.query name fetch) (.ok row)
        ⟨fetch, none, .value name ((row.filter fun row ↦ row.name == name).bind Row.value)⟩
  | list {stem : String} {fetch : Fetch} {reply : ListReply} :
      Completes (.list stem fetch) (.ok reply) ⟨fetch, reply.handOver, .listing stem reply.values⟩

theorem completes {verb : Verb} {kind : Kind} {pending : Pending verb kind}
    {outcome : verb.Outcome} {k : Completion} (h : pending.completion? outcome = some k) :
    pending.Completes outcome k := by
  cases pending with
  | get name fetch =>
    rcases outcome with e | _ | reply
    · cases h
    · cases h
    · cases h
      exact .get
  | query name fetch =>
    rcases outcome with e | row
    · cases h
    · cases h
      exact .query
  | list stem fetch =>
    rcases outcome with e | reply
    · cases h
    · cases h
      exact .list
  | put | reset => cases h

end Pending

/-- The ways in which an operation can go on: its call completes it as a read, or the turn leaves
the store and the block alone. -/
inductive Resumed (c : Cache) {verb : Verb} {kind : Kind} (pending : Pending verb kind)
    (outcome : verb.Outcome) (turn : Turn (Progress kind)) : Prop
  | completed {k : Completion} {g : Option Generation}
      (hk : pending.completion? outcome = some k)
      (h : Completed k c.store turn.cache.store turn.accesses g)
      (hi : turn.cache.identity = c.identity)
  | quiet (hk : pending.completion? outcome = none) (h : turn.Quiet c)

namespace Cache

private theorem resumed_of_complete (c : Cache) {verb : Verb} {kind : Kind}
    {pending : Pending verb kind} {outcome : verb.Outcome} {k : Completion}
    {turn : Turn (Progress kind)} (hk : pending.completion? outcome = some k)
    (hc : turn.cache = (c.complete k.fetch k.handOver fun s ↦ s.keep k.finding).cache)
    (ha : turn.accesses = (c.complete k.fetch k.handOver fun s ↦ s.keep k.finding).accesses) :
    Resumed c pending outcome turn := by
  have h := complete_completed c k.fetch k.handOver k.finding
  refine .completed hk (g := (c.complete k.fetch k.handOver fun s ↦ s.keep k.finding).result) ?_ ?_
  · rw [hc, ha]
    exact h
  · rw [hc]
    exact identity_complete ..

/-- Every later turn is of this kind. -/
theorem resumed {c : Cache} {verb : Verb} {kind : Kind} {pending : Pending verb kind}
    {outcome : verb.Outcome} {turn : Turn (Progress kind)}
    (hturn : turn = c.resume pending outcome) : Resumed c pending outcome turn := by
  subst hturn
  cases pending <;> rcases outcome with e | reply
  case get.error name fetch =>
    have h := quiet_fallBack (c.record .remoteError) fetch name e
    exact .quiet rfl ⟨h.identity, h.store, h.accesses⟩
  case get.ok name fetch =>
    rcases reply with _ | reply
    · exact .quiet rfl (quiet_fallBack ..)
    · exact resumed_of_complete c rfl rfl (List.append_nil _)
  case query.ok name fetch => exact resumed_of_complete c rfl rfl (List.append_nil _)
  case list.ok stem fetch => exact resumed_of_complete c rfl rfl (List.append_nil _)
  all_goals exact .quiet rfl ⟨rfl, rfl, rfl⟩

end Cache

end SettingsCache
