import SettingsCache.Cache.Operation

/-!
# First turns

The first turn of a read checks the tracker, if the read may use the store. `Checked` lists the ways
in which that can go, with the store before and after, what is done to the block, and the generation
that the values then go with; `Opened` lists what the turn can come to. `Cache.starts` says that the
first turn of every operation is of this kind.
-/

namespace SettingsCache

/-! ## What never changes -/

namespace Cache

/-- The namespace, the owner and the configuration of a cache. -/
def identity (c : Cache) : Namespace × UserId × Config := (c.ns, c.owner, c.config)

theorem ns_of_identity {c c' : Cache} (h : c'.identity = c.identity) : c'.ns = c.ns :=
  congrArg (·.1) h

theorem owner_of_identity {c c' : Cache} (h : c'.identity = c.identity) : c'.owner = c.owner :=
  congrArg (·.2.1) h

theorem config_of_identity {c c' : Cache} (h : c'.identity = c.identity) :
    c'.config = c.config :=
  congrArg (·.2.2) h

/-- Whether reads for a user may use the store. -/
def caches (c : Cache) (user : UserId) : Bool :=
  (Scope.resolve user c.owner).isOwn && c.config.caching

/-- Whether an operation begins with a check of the tracker, if there is one. -/
def checks (c : Cache) {kind : Kind} : Operation kind → Bool
  | .lookup _ user | .list _ user => c.caches user
  | .put _ | .reset _ => false

/-- Only reads for the owner may use the store. -/
theorem eq_owner_of_caches {c : Cache} {user : UserId} (h : c.caches user = true) :
    user = c.owner := by
  unfold caches Scope.resolve at h
  split at h
  · next heq => exact heq
  · exact absurd h Bool.false_ne_true

@[simp] theorem store_record (c : Cache) (counter : Counter) :
    (c.record counter).store = c.store := rfl

end Cache

/-! ## Checks -/

/-- The store reports every failure of its tracker. -/
def Store.Reporting (s : Store) : Prop := ∀ t, s.tracker = some t → t.reporting = true

/-- The ways in which a read can begin: the store before and after, what is done to the block, and
the generation that the values then go with. -/
inductive Checked (caching : Bool) (view : BlockView) (s : Store) :
    Store → List Access → Option Generation → Prop
  /-- The read may not use the store, or there is no tracker. -/
  | skipped (h : caching = true → s.tracker = none) : Checked caching view s s [] none
  /-- The counter could not be read. -/
  | lost {t : Tracker} {e : ArrayError} (hc : caching = true) (ht : s.tracker = some t)
      (hv : view t.handle t.slot = .error e) :
      Checked caching view s {} [.read t.handle t.slot, .close t.handle] none
  /-- The counter has moved. -/
  | moved {t : Tracker} {g : Generation} (hc : caching = true) (ht : s.tracker = some t)
      (hv : view t.handle t.slot = .ok g) (hg : g ≠ t.accepted) :
      Checked caching view s
        { tracker := some
            { t with checks := t.checks + 1, accepted := g, acceptedAt := t.checks + 1 } }
        [.read t.handle t.slot] (some g)
  /-- The counter stands where it stood. -/
  | steady {t : Tracker} (hc : caching = true) (ht : s.tracker = some t)
      (hv : view t.handle t.slot = .ok t.accepted) :
      Checked caching view s { s with tracker := some { t with checks := t.checks + 1 } }
        [.read t.handle t.slot] (some t.accepted)

/-- A check may give a tracker up, but it does not put another in its place. -/
theorem Checked.tracker_eq {caching : Bool} {view : BlockView} {s s' : Store}
    {accesses : List Access} {g : Option Generation} {t' : Tracker}
    (h : Checked caching view s s' accesses g) (ht' : s'.tracker = some t') :
    ∃ t, s.tracker = some t ∧ t'.slot = t.slot ∧ t'.reporting = t.reporting := by
  cases h with
  | skipped => exact ⟨t', ht', rfl, rfl⟩
  | lost => cases ht'
  | moved _ ht | steady _ ht =>
    cases ht'
    exact ⟨_, ht, rfl, rfl⟩

/-- A check leaves a store that reports its failures. -/
theorem Checked.reporting {caching : Bool} {view : BlockView} {s s' : Store}
    {accesses : List Access} {g : Option Generation} (h : Checked caching view s s' accesses g)
    (hr : s.Reporting) : s'.Reporting := by
  intro t' ht'
  obtain ⟨t, ht, -, hreporting⟩ := h.tracker_eq ht'
  rw [hreporting]
  exact hr t ht

/-- A check that leaves what a store holds: the generation is the same, and it is what was found. -/
structure Checked.Held (view : BlockView) (s s' : Store) (accesses : List Access) : Prop where
  values : s'.values = s.values
  stems : s'.stems = s.stems
  generation : s'.generation = s.generation
  found : ∀ g, s.generation = some g →
    ∀ handle slot, .read handle slot ∈ accesses → view handle slot = .ok g

/-- A check empties a store or leaves what it holds. -/
theorem Checked.emptied_or_held {caching : Bool} {view : BlockView} {s s' : Store}
    {accesses : List Access} {g : Option Generation} (h : Checked caching view s s' accesses g) :
    (s'.values = ∅ ∧ s'.stems = ∅) ∨ Checked.Held view s s' accesses := by
  cases h with
  | skipped => exact .inr ⟨rfl, rfl, rfl, fun _ _ _ _ hread ↦ absurd hread List.not_mem_nil⟩
  | lost | moved => exact .inl ⟨rfl, rfl⟩
  | @steady t hc ht hview =>
    have hgen : s.generation = some t.accepted := by rw [Store.generation, ht, Option.map_some]
    refine .inr ⟨rfl, rfl, hgen.symm, ?_⟩
    intro g hg handle slot hread
    obtain ⟨rfl, rfl⟩ : handle = t.handle ∧ slot = t.slot := by simpa using hread
    rw [hview, Option.some.inj (hgen.symm.trans hg)]

/-- A check that leaves a generation leaves a store that goes by it. -/
theorem Checked.generation_eq {caching : Bool} {view : BlockView} {s s' : Store}
    {accesses : List Access} {g : Generation} (h : Checked caching view s s' accesses (some g)) :
    s'.generation = some g := by
  cases h <;> rfl

/-- Only a read that may use the store is left with a generation. -/
theorem Checked.caching_eq {caching : Bool} {view : BlockView} {s s' : Store}
    {accesses : List Access} {g : Generation} (h : Checked caching view s s' accesses (some g)) :
    caching = true := by
  cases h with
  | moved hc | steady hc => exact hc

namespace Cache

@[simp] theorem identity_sync (c : Cache) (view : BlockView) :
    (c.sync view).cache.identity = c.identity := by
  unfold sync
  split
  · rfl
  · dsimp only
    split
    · rfl
    · split <;> rfl

theorem sync_checked (c : Cache) (view : BlockView) (hr : c.store.Reporting) :
    Checked true view c.store (c.sync view).cache.store (c.sync view).accesses
      (c.sync view).result := by
  cases ht : c.store.tracker with
  | none =>
    simp only [sync, ht]
    exact .skipped fun _ ↦ ht
  | some t =>
    have hrep := hr t ht
    cases hv : view t.handle t.slot with
    | error e =>
      simp only [sync, ht, hv, Tracker.check, Tracker.report, hrep]
      exact .lost rfl ht hv
    | ok g =>
      by_cases hg : g = t.accepted
      · subst hg
        simp only [sync, ht, hv, Tracker.check, ite_true]
        exact .steady rfl ht hv
      · simp only [sync, ht, hv, Tracker.check, hg, ite_false]
        exact .moved rfl ht hv hg

@[simp] theorem identity_beginRead (c : Cache) (view : BlockView) (user : UserId) :
    (c.beginRead view user).cache.identity = c.identity := by
  dsimp only [beginRead]
  split
  · exact identity_sync c view
  · rfl

theorem beginRead_checked (c : Cache) (view : BlockView) (user : UserId)
    (hr : c.store.Reporting) :
    Checked (c.caches user) view c.store (c.beginRead view user).cache.store
      (c.beginRead view user).accesses (c.beginRead view user).result.observed := by
  cases hc : c.caches user with
  | true =>
    have h : (Scope.resolve user c.owner).isOwn && c.config.caching := hc
    simp only [beginRead, h, ite_true]
    exact sync_checked c view hr
  | false =>
    have h : ((Scope.resolve user c.owner).isOwn && c.config.caching) = false := hc
    simp only [beginRead, h, Bool.false_eq_true, ite_false]
    exact .skipped fun h ↦ absurd h Bool.false_ne_true

end Cache

/-! ## First turns -/

/-- What a read remembers is what it has to remember for its user. -/
structure Fetch.For (c : Cache) (user : UserId) (fetch : Fetch) : Prop where
  user_eq : fetch.user = (Scope.resolve user c.owner).wireUser
  caching_eq : fetch.caching = c.caches user

/-- What the first turn of an operation can come to, by the store and what the read remembers after
the check. -/
inductive Opened (c : Cache) (s : Store) (fetch : Fetch) :
    {kind : Kind} → Operation kind → Progress kind → Prop
  /-- The value is known. -/
  | hit {name : String} {user : UserId} {g : Generation} {value : Option String}
      (hf : fetch.For c user) (ho : fetch.observed = some g)
      (hv : s.values[name]? = some value) :
      Opened c s fetch (.lookup name user) (.done (.ok (.ofCache value g)))
  /-- The listing is known. -/
  | listed {stem : String} {user : UserId} {g : Generation} (hf : fetch.For c user)
      (ho : fetch.observed = some g) (hs : s.stems.contains stem) :
      Opened c s fetch (.list stem user) (.done (.ok (s.listing stem)))
  /-- The value is not known, and there is no way to ask for it. -/
  | lookupRefused {name : String} {user : UserId} {e : RemoteError} (hf : fetch.For c user) :
      Opened c s fetch (.lookup name user) (.done (.error e))
  /-- The listing is not known, and there is no way to ask for it. -/
  | listRefused {stem : String} {user : UserId} {e : RemoteError} (hf : fetch.For c user) :
      Opened c s fetch (.list stem user) (.done (.error e))
  | get {name : String} {user : UserId} {track : Bool} (hf : fetch.For c user) :
      Opened c s fetch (.lookup name user)
        (.calling (.get ⟨name, fetch.user, track⟩) (.get name fetch))
  | query {name : String} {user : UserId} (hf : fetch.For c user) :
      Opened c s fetch (.lookup name user)
        (.calling (.query name fetch.user) (.query name fetch))
  | list {stem : String} {user : UserId} {track : Bool} (hf : fetch.For c user) :
      Opened c s fetch (.list stem user)
        (.calling (.list ⟨stem, fetch.user, track⟩) (.list stem fetch))
  | put {request : PutRequest} : Opened c s fetch (.put request) (.calling (.put request) .put)
  | reset {request : ResetRequest} :
      Opened c s fetch (.reset request) (.calling (.reset request) .reset)

/-- A turn that leaves the store and the block alone. -/
structure Turn.Quiet {α : Type} (c : Cache) (turn : Turn α) : Prop where
  identity : turn.cache.identity = c.identity
  store : turn.cache.store = c.store
  accesses : turn.accesses = []

namespace Cache

theorem quiet_fallBack (c : Cache) (fetch : Fetch) (name : String) (e : RemoteError) :
    (c.fallBack fetch name e).Quiet c := by
  unfold fallBack
  split <;> exact ⟨rfl, rfl, rfl⟩

theorem result_fallBack (c : Cache) (fetch : Fetch) (name : String) (e : RemoteError) :
    (c.fallBack fetch name e).result = .done (.error e) ∨
      (c.fallBack fetch name e).result =
        .calling (.query name fetch.user) (.query name fetch) := by
  unfold fallBack
  split
  · exact .inr rfl
  · exact .inl rfl

theorem quiet_goOutForLookup (c : Cache) (fetch : Fetch) (name : String) :
    ((c.recordMiss fetch).goOutForLookup fetch name).Quiet c := by
  have hi : (c.recordMiss fetch).identity = c.identity := by
    unfold recordMiss
    split <;> rfl
  have hs : (c.recordMiss fetch).store = c.store := by
    unfold recordMiss
    split <;> rfl
  unfold goOutForLookup
  split
  · exact ⟨hi, hs, rfl⟩
  · have h := quiet_fallBack (c.recordMiss fetch) fetch name
      (.unsupported ((c.recordMiss fetch).ns.method .get))
    exact ⟨h.identity.trans hi, h.store.trans hs, h.accesses⟩

theorem quiet_goOutForListing (c : Cache) (fetch : Fetch) (stem : String) :
    ((c.recordMiss fetch).goOutForListing fetch stem).Quiet c := by
  unfold goOutForListing recordMiss
  split <;> split <;> exact ⟨rfl, rfl, rfl⟩

theorem opened_goOutForLookup {c : Cache} (out : Cache) {s : Store} {fetch : Fetch}
    (name : String) {user : UserId} (hf : fetch.For c user) :
    Opened c s fetch (.lookup name user) (out.goOutForLookup fetch name).result := by
  unfold goOutForLookup
  split
  · exact .get hf
  · obtain h | h := result_fallBack out fetch name (.unsupported (out.ns.method .get))
    · rw [h]
      exact .lookupRefused hf
    · rw [h]
      exact .query hf

theorem opened_goOutForListing {c : Cache} (out : Cache) {s : Store} {fetch : Fetch}
    (stem : String) {user : UserId} (hf : fetch.For c user) :
    Opened c s fetch (.list stem user) (out.goOutForListing fetch stem).result := by
  unfold goOutForListing
  split
  · exact .list hf
  · exact .listRefused hf

/-- The first turn of an operation checks the tracker if the operation may use the store, and goes
on from there. -/
structure Starts (c : Cache) (view : BlockView) {kind : Kind} (operation : Operation kind)
    (turn : Turn (Progress kind)) (fetch : Fetch) : Prop where
  identity : turn.cache.identity = c.identity
  checked : Checked (c.checks operation) view c.store turn.cache.store turn.accesses fetch.observed
  opened : Opened c turn.cache.store fetch operation turn.result

theorem fetch_beginRead (c : Cache) (view : BlockView) (user : UserId) :
    (c.beginRead view user).result.For c user := ⟨rfl, rfl⟩

/-- A read starts as it should if what it does after the check leaves the store and the block alone
and comes to what it should. -/
theorem starts_beginRead {c : Cache} {view : BlockView} {user : UserId} {kind : Kind}
    {operation : Operation kind} {f : Cache → Fetch → Turn (Progress kind)}
    (hr : c.store.Reporting) (hchecks : c.checks operation = c.caches user)
    (hquiet : ∀ b fetch, (f b fetch).Quiet b)
    (hopened : ∀ b fetch, fetch.For c user → Opened c b.store fetch operation (f b fetch).result) :
    Starts c view operation ((c.beginRead view user).bind f) (c.beginRead view user).result := by
  have hq := hquiet (c.beginRead view user).cache (c.beginRead view user).result
  have ho := hopened (c.beginRead view user).cache _ (fetch_beginRead c view user)
  constructor
  · exact hq.identity.trans (identity_beginRead c view user)
  · simp only [Turn.bind, hchecks, hq.store, hq.accesses, List.append_nil]
    exact beginRead_checked c view user hr
  · simp only [Turn.bind, hq.store]
    exact ho

theorem starts_lookup (c : Cache) (view : BlockView) (name : String) (user : UserId)
    (hr : c.store.Reporting) :
    Starts c view (.lookup name user) (c.start view (.lookup name user))
      (c.beginRead view user).result := by
  dsimp only [start]
  apply starts_beginRead hr rfl
  · intro b fetch
    split
    · exact ⟨rfl, rfl, rfl⟩
    · exact quiet_goOutForLookup b fetch name
  · intro b fetch hf
    split
    · next hknown =>
      obtain ⟨g, ho, hknown⟩ := Option.bind_eq_some_iff.mp hknown
      obtain ⟨value, hv, hknown⟩ := Option.bind_eq_some_iff.mp hknown
      cases hknown
      exact .hit hf ho hv
    · exact opened_goOutForLookup _ name hf

theorem starts_list (c : Cache) (view : BlockView) (stem : String) (user : UserId)
    (hr : c.store.Reporting) :
    Starts c view (.list stem user) (c.start view (.list stem user))
      (c.beginRead view user).result := by
  dsimp only [start]
  apply starts_beginRead hr rfl
  · intro b fetch
    split
    · exact ⟨rfl, rfl, rfl⟩
    · exact quiet_goOutForListing b fetch stem
  · intro b fetch hf
    split
    · next hknown =>
      unfold knownListing? at hknown
      split at hknown
      · next hboth =>
        obtain ⟨hobserved, hs⟩ := Bool.and_eq_true_iff.mp hboth
        obtain ⟨g, ho⟩ := Option.isSome_iff_exists.mp hobserved
        cases hknown
        exact .listed hf ho hs
      · cases hknown
    · exact opened_goOutForListing _ stem hf

/-- Every first turn is of this kind. -/
theorem starts {c : Cache} {view : BlockView} {kind : Kind} {operation : Operation kind}
    {turn : Turn (Progress kind)} (hturn : turn = c.start view operation)
    (hr : c.store.Reporting) : ∃ fetch, Starts c view operation turn fetch := by
  subst hturn
  cases operation with
  | lookup name user => exact ⟨_, starts_lookup c view name user hr⟩
  | list stem user => exact ⟨_, starts_list c view stem user hr⟩
  | put request => exact ⟨⟨none, false, none⟩, rfl, .skipped (absurd · Bool.false_ne_true), .put⟩
  | reset request =>
    exact ⟨⟨none, false, none⟩, rfl, .skipped (absurd · Bool.false_ne_true), .reset⟩

end Cache

end SettingsCache
