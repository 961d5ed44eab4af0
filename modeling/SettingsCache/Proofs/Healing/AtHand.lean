import SettingsCache.Proofs.Handles.Open
import SettingsCache.Proofs.Session.Answers

/-!
# Values at hand

A cache has a value at hand if it keeps the value together with a tracker that reads the namespace's
counter through an open handle and has accepted where the counter stands. As long as it stands
there, the cache answers by itself, and none of its operations takes the value or the tracker away.
-/

namespace SettingsCache

/-- The tracker of a store follows the counter of a namespace through an open handle and has
accepted a generation. -/
def Store.Follows (store : Store) (s : Service) (ns : Namespace) (g : Generation) : Prop :=
  ∃ t, store.tracker = some t ∧ t.slot = ns.slot ∧ t.accepted = g ∧ s.Open t.handle

/-- The value of a name is kept, and the tracker has accepted a generation. -/
structure Cache.AtHand (c : Cache) (s : Service) (name : String) (value : Option String)
    (g : Generation) : Prop where
  tracker : c.store.Follows s c.ns g
  value : c.store.values[name]? = some value

/-- The service holds a value for the owner of a cache, its own user, and lets the counter be read,
which stands at a generation. -/
structure Service.Holds (s : Service) (c : Cache) (name : String) (value : Option String)
    (g : Generation) : Prop where
  slotted : s.Slotted
  own : c.owner = s.ownUser
  reads : s.block.failReads = false
  counter : s.generation c.ns = g
  value : s.value c.ns c.owner name = value

/-- A call whose answer leaves alone what is kept of a name. It asks for no hand-over, and if the
answer may be kept, it is about another name or about all names with a stem. -/
inductive Pending.Spares (name : String) :
    {verb : Verb} → {kind : Kind} → Call verb → Pending verb kind → Prop
  | get {other : String} {fetch : Fetch} (h : fetch.caching = true → other ≠ name) :
      Spares name (.get ⟨other, fetch.user, false⟩) (.get other fetch)
  | query {other : String} {fetch : Fetch} (h : fetch.caching = true → other ≠ name) :
      Spares name (.query other fetch.user) (.query other fetch)
  | list {stem : String} {fetch : Fetch} (h : fetch.caching = true → fetch.user = none) :
      Spares name (.list ⟨stem, fetch.user, false⟩) (.list stem fetch)

/-- An operation that is finished or has made such a call. -/
def Progress.Spares (name : String) {kind : Kind} : Progress kind → Prop
  | .done _ => True
  | .calling call pending => pending.Spares name call

theorem Pending.Spares.quiet {name : String} {verb : Verb} {kind : Kind} {call : Call verb}
    {pending : Pending verb kind} (h : pending.Spares name call) :
    call.track = false ∧ call.reads = true := by
  cases h <;> exact ⟨rfl, rfl⟩

namespace Service.Holds

variable {s t : Service} {c : Cache} {name : String} {value : Option String} {g : Generation}

theorem congr (h : s.Holds c name value g) {c' : Cache} (hi : c'.identity = c.identity)
    (hcontents : t.contents = s.contents) : t.Holds c' name value g := by
  have hns : c'.ns = c.ns := Cache.ns_of_identity hi
  have howner : c'.owner = c.owner := Cache.owner_of_identity hi
  refine ⟨slotted_of_contents hcontents h.slotted, ?_,
    (failReads_of_contents hcontents).trans h.reads, ?_, ?_⟩
  · exact howner.trans (h.own.trans (ownUser_of_contents hcontents).symm)
  · rw [hns]
    exact (generation_of_contents hcontents c.ns).trans h.counter
  · rw [hns, howner]
    exact (value_congr (congrArg (·.get c.ns) (tables_of_contents hcontents)) _ name).trans h.value

end Service.Holds

namespace Cache

variable {c : Cache} {s : Service} {name : String} {value : Option String} {g : Generation}

/-- The cache after a check of its tracker that has found the accepted generation. -/
def counted (c : Cache) (t : Tracker) : Cache :=
  { c with store := { c.store with tracker := some { t with checks := t.checks + 1 } } }

theorem sync_of_view {view : BlockView} {t : Tracker} (ht : c.store.tracker = some t)
    (hview : view t.handle t.slot = .ok t.accepted) :
    c.sync view = ⟨c.counted t, [.read t.handle t.slot], some t.accepted⟩ := by
  simp [sync, ht, hview, Tracker.check, counted]

theorem beginRead_of_not_caches (view : BlockView) {user : UserId} (h : c.caches user = false) :
    c.beginRead view user = ⟨c, [], ⟨(Scope.resolve user c.owner).wireUser, false, none⟩⟩ := by
  have h' : ((Scope.resolve user c.owner).isOwn && c.config.caching) = false := h
  simp only [beginRead, h', Bool.false_eq_true, if_false]

theorem caches_owner (hcaching : c.config.caching = true) : c.caches c.owner = true := by
  unfold caches Scope.resolve
  rw [if_pos rfl, hcaching]
  rfl

/-- Reads that may be kept name no user. -/
theorem wireUser_of_caches {user : UserId} (h : c.caches user = true) :
    (Scope.resolve user c.owner).wireUser = none := by
  unfold Scope.resolve
  rw [if_pos (eq_owner_of_caches h)]
  rfl

namespace AtHand

/-- What a cache has at hand does not depend on its statistics, or on handles other than its own. -/
theorem congr (h : c.AtHand s name value g) {c' : Cache} {t : Service} (hns : c'.ns = c.ns)
    (hstore : c'.store = c.store)
    (hopen : ∀ handle ∈ c.store.owned, s.Open handle → t.Open handle) :
    c'.AtHand t name value g := by
  obtain ⟨⟨tracker, htracker, hslot, haccepted, ho⟩, hvalue⟩ := h
  refine ⟨⟨tracker, ?_, ?_, haccepted, hopen _ (Store.handle_mem_owned htracker) ho⟩, ?_⟩
  · rw [hstore]
    exact htracker
  · rw [hns]
    exact hslot
  · rw [hstore]
    exact hvalue

/-- A read that may use the store finds the accepted generation. -/
theorem beginRead (h : c.AtHand s name value g) (holds : s.Holds c name value g) {user : UserId}
    (hcaches : c.caches user = true) :
    ∃ t, c.store.tracker = some t ∧ t.slot = c.ns.slot ∧ c.beginRead (Provider.view s) user =
      ⟨c.counted t, [.read t.handle t.slot], ⟨none, true, some g⟩⟩ := by
  obtain ⟨t, ht, hslot, rfl, ho⟩ := h.tracker
  have hview := ho.view holds.slotted c.ns
  rw [holds.reads, holds.counter, if_neg Bool.false_ne_true, ← hslot] at hview
  have hsync : c.sync (Provider.view s) = _ := sync_of_view ht hview
  have hscope : ((Scope.resolve user c.owner).isOwn && c.config.caching) = true := hcaches
  refine ⟨t, ht, hslot, ?_⟩
  simp only [Cache.beginRead, hscope, if_true, hsync, wireUser_of_caches hcaches]

/-- A lookup of the name by the owner is answered at once, after one read of the block. -/
theorem perform_lookup (h : c.AtHand s name value g) (holds : s.Holds c name value g)
    (hcaching : c.config.caching = true) :
    (c.perform s (.lookup name c.owner)).answer = .ok (.ofCache value g) ∧
      ∃ handle, (c.perform s (.lookup name c.owner)).provider =
        s.access (.read handle c.ns.slot) := by
  obtain ⟨t, ht, hslot, hbegun⟩ := h.beginRead holds (caches_owner hcaching)
  have hknown : (c.counted t).knownReading? ⟨none, true, some g⟩ name =
      some (.ofCache value g) := by
    have hvalue : (c.counted t).store.values[name]? = some value := h.value
    unfold knownReading?
    rw [hvalue]
    rfl
  rw [Cache.perform_lookup, hbegun]
  dsimp only
  rw [hknown, hslot]
  exact ⟨rfl, t.handle, rfl⟩

/-! ### Operations of the cache -/

/-- What a read goes on from after its check still has the value at hand. -/
theorem begun (h : c.AtHand s name value g) (holds : s.Holds c name value g) (user : UserId) :
    let begun := c.beginRead (Provider.view s) user
    begun.cache.AtHand (Provider.accessAll s begun.accesses) name value g ∧
      begun.cache.store.tracker.isSome ∧ begun.cache.store.values = c.store.values ∧
      (begun.result.caching = true →
        begun.result.observed = some g ∧ begun.result.user = none) := by
  intro begun
  cases hcaches : c.caches user with
  | true =>
    obtain ⟨t, ht, hslot, hbegun⟩ := h.beginRead holds hcaches
    obtain ⟨t', ht', -, haccepted, ho⟩ := h.tracker
    obtain rfl : t' = t := Option.some.inj (ht'.symm.trans ht)
    rw [show begun = _ from hbegun]
    refine ⟨⟨⟨_, rfl, hslot, haccepted, ?_⟩, h.value⟩, rfl, rfl, fun _ ↦ ⟨rfl, rfl⟩⟩
    exact ho.accessAll List.not_mem_nil
  | false =>
    have hbegun : begun = _ := beginRead_of_not_caches _ hcaches
    rw [hbegun]
    refine ⟨h, ?_, rfl, nofun⟩
    obtain ⟨t, ht, -⟩ := h.tracker
    rw [ht]
    rfl

/-- A turn that leaves the store and the block alone leaves the value at hand. -/
theorem quiet (h : c.AtHand s name value g) {α : Type} {turn : Turn α} (hquiet : turn.Quiet c) :
    turn.cache.AtHand (Provider.accessAll s turn.accesses) name value g := by
  rw [hquiet.accesses]
  exact h.congr (ns_of_identity hquiet.identity) hquiet.store fun _ _ ↦ id

/-- So does a read whose check leaves it at hand and that then leaves the store and the block
alone. -/
theorem bind {α β : Type} {turn : Turn α} {f : Cache → α → Turn β}
    (h : turn.cache.AtHand (Provider.accessAll s turn.accesses) name value g)
    (hquiet : (f turn.cache turn.result).Quiet turn.cache) :
    (turn.bind f).cache.AtHand (Provider.accessAll s (turn.bind f).accesses) name value g := by
  have hnext := h.quiet hquiet
  rw [← Provider.accessAll_append] at hnext
  exact hnext

end AtHand

/-- With a tracker, no read asks for a hand-over. -/
theorem wantsHandOver_of_tracking (htracker : c.store.tracker.isSome) (fetch : Fetch) :
    (c.recordMiss fetch).wantsHandOver fetch = false := by
  have htracking : (c.recordMiss fetch).isTracking = true := by
    unfold isTracking recordMiss
    split <;> exact htracker
  unfold wantsHandOver
  rw [htracking, Bool.not_true, Bool.and_false]

theorem spares_fallBack (c : Cache) {fetch : Fetch} {other : String} (e : RemoteError)
    (hother : fetch.caching = true → other ≠ name) :
    (c.fallBack fetch other e).result.Spares name := by
  unfold fallBack
  split
  · exact Pending.Spares.query hother
  · trivial

theorem spares_goOutForLookup (htracker : c.store.tracker.isSome) {fetch : Fetch} {other : String}
    (hother : fetch.caching = true → other ≠ name) :
    ((c.recordMiss fetch).goOutForLookup fetch other).result.Spares name := by
  unfold goOutForLookup
  split
  · rw [wantsHandOver_of_tracking htracker]
    exact Pending.Spares.get hother
  · exact spares_fallBack _ _ hother

theorem spares_goOutForListing (htracker : c.store.tracker.isSome) {fetch : Fetch} (stem : String)
    (huser : fetch.caching = true → fetch.user = none) :
    ((c.recordMiss fetch).goOutForListing fetch stem).result.Spares name := by
  unfold goOutForListing
  split
  · rw [wantsHandOver_of_tracking htracker]
    exact Pending.Spares.list huser
  · trivial

/-- The later calls of a read are such calls, too. -/
theorem spares_resume {verb : Verb} {kind : Kind} {call : Call verb} {pending : Pending verb kind}
    (h : pending.Spares name call) (outcome : verb.Outcome) :
    (c.resume pending outcome).result.Spares name := by
  cases h with
  | get hother =>
    rcases outcome with e | _ | reply
    · exact spares_fallBack (c.record .remoteError) e hother
    · exact spares_fallBack c _ hother
    · trivial
  | query => rcases outcome with e | row <;> trivial
  | list => rcases outcome with e | reply <;> trivial

namespace AtHand

/-- The first turn of a read leaves the value at hand. -/
theorem start (h : c.AtHand s name value g) (holds : s.Holds c name value g) {kind : Kind}
    (operation : Operation kind) (hkind : kind ≠ .write) :
    let turn := c.start (Provider.view s) operation
    turn.cache.AtHand (Provider.accessAll s turn.accesses) name value g ∧
      turn.result.Spares name := by
  cases operation with
  | lookup other user =>
    obtain ⟨hbegun, htracker, hvalues, hfetch⟩ := h.begun holds user
    dsimp only [Cache.start]
    cases hknown : (c.beginRead (Provider.view s) user).cache.knownReading?
      (c.beginRead (Provider.view s) user).result other with
    | some reading =>
      refine ⟨hbegun.bind ?_, ?_⟩
      all_goals
        simp only [Turn.bind, hknown]
      · exact ⟨rfl, rfl, rfl⟩
      · trivial
    | none =>
      have hother : (c.beginRead (Provider.view s) user).result.caching = true → other ≠ name := by
        rintro hcaching rfl
        unfold knownReading? at hknown
        rw [(hfetch hcaching).1, hvalues, h.value] at hknown
        cases hknown
      refine ⟨hbegun.bind ?_, ?_⟩
      all_goals
        simp only [Turn.bind, hknown]
      · exact quiet_goOutForLookup ..
      · exact spares_goOutForLookup htracker hother
  | list stem user =>
    obtain ⟨hbegun, htracker, -, hfetch⟩ := h.begun holds user
    dsimp only [Cache.start]
    cases hknown : (c.beginRead (Provider.view s) user).cache.knownListing?
      (c.beginRead (Provider.view s) user).result stem with
    | some values =>
      refine ⟨hbegun.bind ?_, ?_⟩
      all_goals
        simp only [Turn.bind, hknown]
      · exact ⟨rfl, rfl, rfl⟩
      · trivial
    | none =>
      refine ⟨hbegun.bind ?_, ?_⟩
      all_goals
        simp only [Turn.bind, hknown]
      · exact quiet_goOutForListing ..
      · exact spares_goOutForListing htracker stem fun hcaching ↦ (hfetch hcaching).2
  | put | reset => exact absurd rfl hkind

/-- What a call may tell of the name is what the service holds. -/
theorem told {verb : Verb} {kind : Kind} {call : Call verb} {pending : Pending verb kind}
    (holds : s.Holds c name value g) (hspares : pending.Spares name call) {k : Completion}
    (hk : pending.completion? (s.serve c.ns call).1 = some k) (hcaching : k.fetch.caching = true)
    {text : Option String} (hsaid : k.finding.of? name = some text) : text = value := by
  generalize houtcome : (s.serve c.ns call).1 = outcome at hk
  have hother {other : String} (hne : other ≠ name) (found : Option String) :
      (Finding.value other found).of? name = none := if_neg hne
  cases Pending.completes hk with
  | get =>
    cases hspares with
    | get hne => cases (hother (hne hcaching) _).symm.trans hsaid
  | query =>
    cases hspares with
    | query hne => cases (hother (hne hcaching) _).symm.trans hsaid
  | @list stem fetch reply =>
    cases hspares with
    | list huser =>
      have hanswer : (Provider.answer s c.ns (.list ⟨stem, fetch.user, false⟩) none).1 =
          .ok reply := houtcome
      have htrue : (Finding.listing stem reply.values).TrueOf c.ns (s.requestUser fetch.user) s :=
        (Service.list_reply none hanswer).1
      have huser' : s.requestUser fetch.user = c.owner := by
        rw [huser hcaching]
        exact holds.own.symm
      rw [huser'] at htrue
      exact (htrue.value_eq hsaid).symm.trans holds.value

/-- A completion without a hand-over leaves the value at hand if it keeps nothing else of the
name. -/
theorem completed (h : c.AtHand s name value g) {c' : Cache} {k : Completion}
    {accesses : List Access} {told : Option Generation} (hns : c'.ns = c.ns)
    (hcompleted : Completed k c.store c'.store accesses told) (hnone : k.handOver = none)
    (htold : k.fetch.caching = true → ∀ text, k.finding.of? name = some text → text = value) :
    c'.AtHand (Provider.accessAll s accesses) name value g := by
  have hrelease : k.release = [] := by
    unfold Completion.release
    rw [hnone]
    rfl
  have huntracked : k.tracker? = none := by
    unfold Completion.tracker?
    rw [hnone]
    rfl
  generalize hstore : c'.store = store at hcompleted
  cases hcompleted with
  | foreign | late =>
    rw [hrelease]
    exact h.congr hns hstore fun _ _ ↦ id
  | kept hcaching =>
    rw [hrelease]
    obtain ⟨tracker, htracker, hslot, haccepted, ho⟩ := h.tracker
    refine ⟨⟨tracker, ?_, hslot.trans (congrArg Namespace.slot hns.symm), haccepted, ho⟩, ?_⟩
    · rw [hstore, Store.tracker_keep]
      exact htracker
    · rw [hstore, Store.getElem?_values_keep]
      cases hsaid : k.finding.of? name with
      | none => exact h.value
      | some text => rw [Option.some_or, htold hcaching text hsaid]
  | adopted _ ht => cases huntracked.symm.trans ht

/-- A later turn of a read leaves the value at hand. -/
theorem resume (h : c.AtHand s name value g) (holds : s.Holds c name value g) {verb : Verb}
    {kind : Kind} {call : Call verb} {pending : Pending verb kind}
    (hspares : pending.Spares name call) :
    let served := s.serve c.ns call
    let turn := c.resume pending served.1
    turn.cache.AtHand (Provider.accessAll served.2 turn.accesses) name value g := by
  intro served turn
  have hserved : c.AtHand served.2 name value g := h.congr rfl rfl fun _ _ ho ↦ ho.serve c.ns call
  cases resumed (Eq.refl turn) with
  | quiet _ hquiet => exact hserved.quiet hquiet
  | completed hk hcompleted hidentity =>
    refine hserved.completed (ns_of_identity hidentity) hcompleted ?_ ?_
    · rw [← Pending.handOver_of_completion? hk]
      exact s.handOver?_serve c.ns hspares.quiet.1
    · exact fun hcaching _ hsaid ↦ told holds hspares hk hcaching hsaid

/-- An operation of the cache, by itself, leaves the value at hand. -/
theorem perform (h : c.AtHand s name value g) (holds : s.Holds c name value g)
    (hr : c.store.Reporting) {kind : Kind} (operation : Operation kind) :
    (c.perform s operation).state.AtHand (c.perform s operation).provider name value g := by
  have hread (hkind : kind ≠ .write) :
      (c.perform s operation).state.AtHand (c.perform s operation).provider name value g := by
    obtain ⟨fetch, hstart⟩ := starts (Eq.refl (c.start (Provider.view s) operation)) hr
    refine (carryOn_invariant (P := fun c' (s' : Service) progress ↦ s'.Holds c' name value g ∧
      c'.AtHand s' name value g ∧ progress.Spares name) ?_ ?_).2.1
    · intro c' s' verb call pending h
      obtain ⟨holds', h', hspares⟩ := h
      refine ⟨?_, h'.resume holds' hspares, spares_resume hspares _⟩
      refine holds'.congr (c'.identity_resume pending _).1 ?_
      exact (Service.contents_accessAll ..).trans (Service.contents_serve s' c'.ns hspares.quiet.2)
    · exact ⟨holds.congr hstart.identity (Service.contents_accessAll ..),
        h.start holds operation hkind⟩
  cases operation with
  | lookup | list => exact hread nofun
  | put request =>
    rw [perform_put]
    exact h.congr (ns_of_identity (c.identity_afterWrite _)) (c.store_afterWrite _)
      fun _ _ ho ↦ ho.serve c.ns _
  | reset request =>
    rw [perform_reset]
    exact h.congr (ns_of_identity (c.identity_afterWrite _)) (c.store_afterWrite _)
      fun _ _ ho ↦ ho.serve c.ns _

end AtHand

end Cache

end SettingsCache
