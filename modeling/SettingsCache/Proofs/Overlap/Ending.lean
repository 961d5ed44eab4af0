import SettingsCache.Proofs.Overlap.Outstanding

/-!
# How reads end

A read that succeeds ends in one of two ways: in its first turn, from what the store holds at a
generation that the check has just found, or in a turn that completes it by what a call of it found.
-/

namespace SettingsCache

variable {σ : Type} [Provider σ]

/-- At this moment the store can be served from: a check finds the generation that it goes by. -/
structure Moment.Current (m : Moment σ) (g : Generation) : Prop where
  confirms : m.Confirms g
  generation : m.before.cache.store.generation = some g

/-- A check that finds a generation and leaves what the store holds shows that the store is
current. -/
theorem Checked.current {m : Moment σ} {caching : Bool} {s : Store} {g : Generation}
    (h : Checked caching (Provider.view m.before.provider) m.before.cache.store s m.deed.accesses
      (some g))
    (held : Checked.Held (Provider.view m.before.provider) m.before.cache.store s m.deed.accesses) :
    m.Current g :=
  ⟨h.found, held.generation.symm.trans h.generation_eq⟩

/-- At this moment a read for a user is completed, with a finding. The read began at a moment, and
one of its calls has come to what brings the finding. -/
inductive Moment.Completes (m : Moment σ) {kind : Kind} (operation : Operation kind) (since : Nat)
    (user : UserId) (finding : Finding) : Prop
  | intro {verb : Verb} {call : Call verb} {pending : Pending verb kind}
      {noted : Option Generation} {outcome : verb.Outcome} {k : Completion}
      (hout : ⟨operation, since, call, pending, noted, some outcome⟩ ∈ m.before.outstanding)
      (hk : pending.completion? outcome = some k) (hf : k.fetch.For m.before.cache user)
      (hfinding : k.finding = finding)

namespace Overlap

variable {moves : σ → σ → Prop} {start s : Overlap σ} {log : List (Moment σ)} {n : Nat}
  {m : Moment σ}

/-- An operation that ends at a moment has begun at the moment that it is known by. -/
theorem Run.began_of_ends (run : Run moves start log s) (fresh : start.Fresh)
    (hm : log[n]? = some m) {kind : Kind} {operation : Operation kind} {since : Nat}
    {answer : kind.Answer} (h : m.deed.Ends n operation since answer) :
    since ≤ n ∧ ∃ m' view turn, log[since]? = some m' ∧ m'.deed = .began operation view turn := by
  obtain ⟨run', s', step⟩ := run.at hm
  obtain ⟨before, deed⟩ := m
  dsimp only at run' step
  cases h with
  | atOnce => exact ⟨Nat.le_refl n, _, _, _, hm, rfl⟩
  | afterCall =>
    cases step with
    | resume hout hturn =>
      have hmem := mem_of_eq_append_cons hout
      obtain ⟨m', view, turn, hm', hd⟩ := (run'.sound fresh _ hmem).began
      obtain ⟨hn, hm'⟩ := getElem?_of_take hm'
      exact ⟨Nat.le_of_lt hn, m', view, turn, hm', hd⟩

/-- A lookup that succeeds is served from the store, or it is completed by a call. -/
theorem Run.lookup_ended (run : Run moves start log s) (fresh : start.Fresh)
    (hm : log[n]? = some m) {name : String} {user : UserId} {since : Nat} {reading : Reading}
    (h : m.deed.Ends n (.lookup name user) since (.ok reading)) :
    (∃ value g, reading = .ofCache value g ∧ since = n ∧ user = m.before.cache.owner ∧
        m.Current g ∧ m.before.cache.store.values[name]? = some value) ∨
      (reading.source ≠ .cache ∧
        m.Completes (.lookup name user) since user (.value name reading.value)) := by
  obtain ⟨run', s', step⟩ := run.at hm
  obtain ⟨before, deed⟩ := m
  dsimp only at run' step
  cases h with
  | atOnce hresult =>
    cases step with
    | begin operation hturn =>
      obtain ⟨fetch, hstart⟩ := Cache.starts hturn (run'.reporting fresh)
      have hopened := hstart.opened
      rw [hresult] at hopened
      have hchecked := hstart.checked
      cases hopened with
      | hit hf ho hv =>
        rw [ho] at hchecked
        rcases hchecked.emptied_or_held with ⟨hempty, -⟩ | held
        · rw [hempty, Std.ExtTreeMap.getElem?_empty] at hv
          cases hv
        · rw [held.values] at hv
          have hown := Cache.eq_owner_of_caches hchecked.caching_eq
          exact .inl ⟨_, _, rfl, rfl, hown, hchecked.current held, hv⟩
  | afterCall hresult =>
    cases step with
    | resume hout hturn =>
      have hmem := mem_of_eq_append_cons hout
      rw [hturn] at hresult
      obtain ⟨k, hk, hf, hfinding, hsource⟩ :=
        (run'.sound fresh _ hmem).fits.finding_of_lookup hresult
      exact .inr ⟨hsource, hmem, hk, hf, hfinding⟩

/-- A listing that succeeds is served from the store, or it is completed by a call. -/
theorem Run.list_ended (run : Run moves start log s) (fresh : start.Fresh)
    (hm : log[n]? = some m) {stem : String} {user : UserId} {since : Nat}
    {values : NameMap String} (h : m.deed.Ends n (.list stem user) since (.ok values)) :
    (values = m.before.cache.store.listing stem ∧ since = n ∧ user = m.before.cache.owner ∧
        (∃ g, m.Current g) ∧ m.before.cache.store.stems.contains stem) ∨
      m.Completes (.list stem user) since user (.listing stem values) := by
  obtain ⟨run', s', step⟩ := run.at hm
  obtain ⟨before, deed⟩ := m
  dsimp only at run' step
  cases h with
  | atOnce hresult =>
    cases step with
    | begin operation hturn =>
      obtain ⟨fetch, hstart⟩ := Cache.starts hturn (run'.reporting fresh)
      have hopened := hstart.opened
      rw [hresult] at hopened
      have hchecked := hstart.checked
      generalize Turn.cache _ = after at hopened hchecked
      cases hopened with
      | listed hf ho hs =>
        rw [ho] at hchecked
        rcases hchecked.emptied_or_held with ⟨-, hempty⟩ | held
        · rw [hempty, Std.ExtTreeSet.contains_empty] at hs
          exact absurd hs Bool.false_ne_true
        · rw [held.stems] at hs
          rw [Store.listing, held.values]
          have hown := Cache.eq_owner_of_caches hchecked.caching_eq
          exact .inl ⟨rfl, rfl, hown, ⟨_, hchecked.current held⟩, hs⟩
  | afterCall hresult =>
    cases step with
    | resume hout hturn =>
      have hmem := mem_of_eq_append_cons hout
      rw [hturn] at hresult
      obtain ⟨k, hk, hf, hfinding⟩ := (run'.sound fresh _ hmem).fits.finding_of_list hresult
      exact .inr ⟨hmem, hk, hf, hfinding⟩

end Overlap

end SettingsCache
