import SettingsCache.Proofs.Accounting
import SettingsCache.Proofs.Healing.AtHand
import SettingsCache.Proofs.Routes
import SettingsCache.Proofs.SwitchedOff

/-!
# When hand-overs are asked for

A fast read or a listing asks for a hand-over just if it is for the cache's owner, the cache is to
track, and the check that the read began with has left no tracker. So while there is a tracker none
is asked for. Over the service, which hands over what it is asked for and nothing else, every handle
is adopted or found to be of no use, and a cache that does one thing at a time adopts a tracker
again only after the one before has been lost or given up.
-/

namespace SettingsCache

/-! ## Requests -/

/-- An operation makes a call at a moment, in its first turn or in a later one. -/
inductive Deed.Makes {verb : Verb} (call : Call verb) : Deed → Prop
  | first {kind : Kind} {operation : Operation kind} {view : BlockView}
      {turn : Turn (Progress kind)} {pending : Pending verb kind}
      (h : turn.result = .calling call pending) : Makes call (.began operation view turn)
  | later {verb' : Verb} {kind : Kind} {operation : Operation kind} {since : Nat}
      {pending' : Pending verb' kind} {outcome : verb'.Outcome} {turn : Turn (Progress kind)}
      {pending : Pending verb kind} (h : turn.result = .calling call pending) :
      Makes call (.resumed operation since pending' outcome turn)

/-- Whether an operation begins. -/
def Deed.begins : Deed → Bool
  | .began _ _ _ => true
  | .resumed _ _ _ _ _ | .noted _ _ | .answered _ _ | .cleared _ | .moved => false

/-- A request for a user names none just if the user is the owner, and it asks for a hand-over just
if the user is the owner, trackers are wanted, and the check has left none. -/
structure Asked (owner : UserId) (config : Config) (user : UserId) (checked : Store)
    (named : Option UserId) (track : Bool) : Prop where
  unnamed_iff : named = none ↔ user = owner
  track_iff : track = true ↔ user = owner ∧ config.wantsTracker = true ∧ checked.tracker = none

namespace Cache

/-- What a read for a user asks for once its check is done. -/
theorem asked (c : Cache) (view : BlockView) (user : UserId) :
    let begun := c.beginRead view user
    Asked c.owner c.config user begun.cache.store begun.result.user
      ((begun.cache.recordMiss begun.result).wantsHandOver begun.result) := by
  intro begun
  have hfor := fetch_beginRead c view user
  have hconfig : (begun.cache.recordMiss begun.result).config = c.config :=
    config_of_identity ((identity_recordMiss ..).trans (identity_beginRead c view user))
  have hstore : (begun.cache.recordMiss begun.result).store = begun.cache.store := by
    unfold recordMiss
    split <;> rfl
  constructor
  · rw [← Option.isNone_iff_eq_none]
    exact isNone_user_iff hfor
  · rw [wantsHandOver, isTracking, hconfig, hstore, hfor.caching_eq, caches, Config.wantsTracker]
    by_cases hown : user = c.owner <;> simp [Scope.resolve, hown, Scope.isOwn, and_assoc]

theorem get_of_goOutForLookup {c : Cache} {fetch : Fetch} {name : String} {request : GetRequest}
    {pending : Pending .get .lookup}
    (h : (c.goOutForLookup fetch name).result = .calling (.get request) pending) :
    request = ⟨name, fetch.user, c.wantsHandOver fetch⟩ ∧ pending = .get name fetch := by
  unfold goOutForLookup at h
  split at h
  · cases h
    exact ⟨rfl, rfl⟩
  · obtain h' | h' := result_fallBack c fetch name (.unsupported (c.ns.method .get))
    · cases h'.symm.trans h
    · cases h'.symm.trans h

theorem list_of_goOutForListing {c : Cache} {fetch : Fetch} {stem : String}
    {request : ListRequest} {pending : Pending .list .listing}
    (h : (c.goOutForListing fetch stem).result = .calling (.list request) pending) :
    request = ⟨stem, fetch.user, c.wantsHandOver fetch⟩ ∧ pending = .list stem fetch := by
  unfold goOutForListing at h
  split at h
  · cases h
    exact ⟨rfl, rfl⟩
  · cases h

/-- The fast read that a first turn makes is that of a lookup, and it asks for what the lookup has
to ask for. -/
theorem get_of_start {c : Cache} {view : BlockView} {operation : Operation .lookup}
    {request : GetRequest} {pending : Pending .get .lookup}
    (h : (c.start view operation).result = .calling (.get request) pending) :
    ∃ user, operation = .lookup request.name user ∧
      Asked c.owner c.config user (c.beginRead view user).cache.store request.user request.track ∧
      pending = .get request.name (c.beginRead view user).result := by
  cases operation with
  | lookup name user =>
    dsimp only [start, Turn.bind] at h
    split at h
    · cases h
    · obtain ⟨rfl, hpending⟩ := get_of_goOutForLookup h
      exact ⟨user, rfl, asked c view user, hpending⟩

/-- The same of the call of a listing. -/
theorem list_of_start {c : Cache} {view : BlockView} {operation : Operation .listing}
    {request : ListRequest} {pending : Pending .list .listing}
    (h : (c.start view operation).result = .calling (.list request) pending) :
    ∃ user, operation = .list request.stem user ∧
      Asked c.owner c.config user (c.beginRead view user).cache.store request.user request.track ∧
      pending = .list request.stem (c.beginRead view user).result := by
  cases operation with
  | list stem user =>
    dsimp only [start, Turn.bind] at h
    split at h
    · cases h
    · obtain ⟨rfl, hpending⟩ := list_of_goOutForListing h
      exact ⟨user, rfl, asked c view user, hpending⟩

/-- A later turn makes queries only. -/
theorem verb_of_resume {c : Cache} {verb verb' : Verb} {kind : Kind} {pending : Pending verb kind}
    {outcome : verb.Outcome} {call : Call verb'} {pending' : Pending verb' kind}
    (h : (c.resume pending outcome).result = .calling call pending') : verb' = .query := by
  have hfallBack {c : Cache} {fetch : Fetch} {name : String} {e : RemoteError}
      {pending' : Pending verb' .lookup}
      (h : (c.fallBack fetch name e).result = .calling call pending') : verb' = .query := by
    obtain h' | h' := result_fallBack c fetch name e
    · cases h'.symm.trans h
    · cases h'.symm.trans h
      rfl
  cases pending <;> rcases outcome with e | reply
  case get.error => exact hfallBack h
  case get.ok =>
    rcases reply with _ | reply
    · exact hfallBack h
    · cases h
  all_goals cases h

/-- A first turn that asks for a hand-over is that of a read that may use the store, and leaves no
tracker. -/
theorem of_track_start {c : Cache} {view : BlockView} {verb : Verb} {kind : Kind}
    {operation : Operation kind} {call : Call verb} {pending : Pending verb kind}
    (h : (c.start view operation).result = .calling call pending) (htrack : call.track = true) :
    (∃ fetch, pending.fetch? = some fetch ∧ fetch.caching = true) ∧
      (c.start view operation).cache.store.tracker = none := by
  have hread {user : UserId} {named : Option UserId} {track : Bool}
      (hreader : operation.reader? = some user)
      (hfetch : pending.fetch? = some (c.beginRead view user).result)
      (hasked : Asked c.owner c.config user (c.beginRead view user).cache.store named track)
      (htrack : track = true) :
      (∃ fetch, pending.fetch? = some fetch ∧ fetch.caching = true) ∧
        (c.start view operation).cache.store.tracker = none := by
    obtain ⟨rfl, hwants, hnone⟩ := hasked.track_iff.mp htrack
    refine ⟨⟨_, hfetch, ?_⟩, ?_⟩
    · rw [(fetch_beginRead c view c.owner).caching_eq]
      exact caches_owner (Bool.and_eq_true_iff.mp hwants).1
    · rw [(c.start_read view hreader).2.1]
      exact hnone
  cases call with
  | get request =>
    cases pending
    obtain ⟨user, rfl, hasked, hpending⟩ := get_of_start h
    exact hread rfl (congrArg Pending.fetch? hpending) hasked htrack
  | list request =>
    cases pending
    obtain ⟨user, rfl, hasked, hpending⟩ := list_of_start h
    exact hread rfl (congrArg Pending.fetch? hpending) hasked htrack
  | query | put | reset => cases htrack

end Cache

/-! ## Every request -/

namespace Overlap

section Requests

variable {σ : Type} [Provider σ] {moves : σ → σ → Prop} {now : Nat} {deed : Deed}
  {s s' start : Overlap σ} {log : List (Moment σ)}

/-- A read leaves no tracker in its check just if there was none, or if the check could not read the
block. -/
theorem Step.checked_tracker_eq_none_iff {kind : Kind} {operation : Operation kind}
    {view : BlockView} {turn : Turn (Progress kind)}
    (step : Step moves now s (.began operation view turn) s')
    (hr : s.cache.store.Reporting) {user : UserId} (hreader : operation.reader? = some user) :
    (s.cache.beginRead view user).cache.store.tracker = none ↔
      s.cache.store.tracker = none ∨
        (⟨s, .began operation view turn⟩ : Moment σ).findsFault = true := by
  have hnone (tracker : Option Tracker) : tracker = none ↔ tracker.isSome.toNat = 0 := by
    cases tracker <;> simp
  have htrackers := (step.effect hr).trackers
  cases step with
  | begin _ hturn =>
    have hstore : turn.cache.store =
        (s.cache.beginRead (Provider.view s.provider) user).cache.store := by
      rw [hturn]
      exact (s.cache.start_read _ hreader).2.1
    -- A first turn adopts no tracker, so that one is gone just if the check has lost it.
    simp only [settle, hstore, Deed.adopted?, Deed.completion?, Moment.clearsTracker,
      Moment.replacesTracker, Deed.isClearing, Option.bind_none, Option.isSome_none,
      Bool.false_and, Bool.toNat_false] at htrackers
    have hle := Bool.toNat_le s.cache.store.tracker.isSome
    rw [hnone, hnone, ← Bool.toNat_eq_one]
    omega

/-- The requests of a moment ask for as much as they need to, for a cache with an owner and a
configuration: they are made in first turns, and what they ask for is up to the user and to the
check. -/
structure AsksAsNeeded (owner : UserId) (config : Config) (m : Moment σ) : Prop where
  get (request : GetRequest) (h : m.deed.Makes (.get request)) :
    ∃ user view turn, m.deed = .began (.lookup request.name user) view turn ∧
      Asked owner config user (m.before.cache.beginRead view user).cache.store request.user
        request.track
  list (request : ListRequest) (h : m.deed.Makes (.list request)) :
    ∃ user view turn, m.deed = .began (.list request.stem user) view turn ∧
      Asked owner config user (m.before.cache.beginRead view user).cache.store request.user
        request.track
  /-- The check leaves no tracker just if there was none, or if it could not read the block. -/
  checked {kind : Kind} {operation : Operation kind} {view : BlockView}
    {turn : Turn (Progress kind)} {user : UserId} (h : m.deed = .began operation view turn)
    (hreader : operation.reader? = some user) :
    (m.before.cache.beginRead view user).cache.store.tracker = none ↔
      m.before.cache.store.tracker = none ∨ m.findsFault = true

/-- A call other than a query is made in the first turn of its operation. -/
theorem Step.began_of_makes (step : Step moves now s deed s') {verb : Verb} {call : Call verb}
    (hverb : verb ≠ .query) (h : deed.Makes call) :
    ∃ (kind : Kind) (operation : Operation kind) (view : BlockView) (pending : Pending verb kind),
      deed = .began operation view (s.cache.start view operation) ∧
        (s.cache.start view operation).result = .calling call pending := by
  cases h with
  | first hresult =>
    cases step with
    | begin operation hturn =>
      rw [hturn] at hresult ⊢
      exact ⟨_, _, _, _, rfl, hresult⟩
  | later hresult =>
    cases step with
    | resume hout hturn =>
      rw [hturn] at hresult
      exact absurd (Cache.verb_of_resume hresult) hverb

/-- All requests of a run ask for as much as they need to. -/
theorem Run.asksAsNeeded (run : Run moves start log s) (fresh : start.Fresh) :
    ∀ m ∈ log, AsksAsNeeded start.cache.owner start.cache.config m := by
  intro m hm
  obtain ⟨n, hn⟩ := List.mem_iff_getElem?.mp hm
  obtain ⟨run', s', step⟩ := run.at hn
  obtain ⟨before, deed⟩ := m
  dsimp only at run' step
  have hidentity := run'.identity_eq
  rw [← Cache.owner_of_identity hidentity, ← Cache.config_of_identity hidentity]
  constructor
  · intro request h
    obtain ⟨_, operation, view, pending, rfl, hresult⟩ := step.began_of_makes (by decide) h
    cases pending
    obtain ⟨user, rfl, hasked, -⟩ := Cache.get_of_start hresult
    exact ⟨user, view, _, rfl, hasked⟩
  · intro request h
    obtain ⟨_, operation, view, pending, rfl, hresult⟩ := step.began_of_makes (by decide) h
    cases pending
    obtain ⟨user, rfl, hasked, -⟩ := Cache.list_of_start hresult
    exact ⟨user, view, _, rfl, hasked⟩
  · intro kind operation view turn user h hreader
    subst h
    exact step.checked_tracker_eq_none_iff (run'.reporting fresh) hreader

/-- A call that asks for a hand-over is of a read that may use the store. -/
theorem Run.caching_of_track (run : Run moves start log s) (hidle : start.outstanding = []) :
    ∀ o ∈ s.outstanding, o.call.track = true →
      ∃ fetch, o.pending.fetch? = some fetch ∧ fetch.caching = true := by
  induction run with
  | nil =>
    intro o ho
    rw [hidle] at ho
    exact absurd ho List.not_mem_nil
  | @snoc log s s' deed run step ih =>
    refine step.forall_outstanding (P := fun o ↦ o.call.track = true →
      ∃ fetch, o.pending.fetch? = some fetch ∧ fetch.caching = true) ih
      (fun o ho _ _ _ _ ↦ ih o ho) (fun o ho _ _ _ ↦ ih o ho) ?_ ?_
    · intro kind operation turn hturn _ o ho htrack
      obtain ⟨verb, call, pending, hresult, rfl⟩ := Progress.eq_of_mem_outstanding ho
      rw [hturn] at hresult
      exact (Cache.of_track_start hresult htrack).1
    · intro o _ outcome _ o' ho' htrack
      rw [Progress.track_of_mem_outstanding ho', Cache.asks_resume] at htrack
      cases htrack

end Requests

end Overlap

/-! ## Every hand-over -/

/-- The hand-over that the deed of a moment gives back since its index is that of no slot, though
the read may use the store. -/
def Deed.rejected? (deed : Deed) : Option HandOver :=
  deed.completion?.bind fun k ↦ k.handOver.filter fun handOver ↦ handOver.slot?.isNone

/-- A hand-over starts a tracker, or its index is that of no slot. -/
theorem Completion.length_handles (k : Completion) :
    (HandOver.handles k.handOver).length = k.tracker?.isSome.toNat +
      (k.handOver.filter fun handOver ↦ handOver.slot?.isNone).isSome.toNat := by
  obtain ⟨fetch, handOver, finding⟩ := k
  cases handOver with
  | none => rfl
  | some handOver =>
    cases hslot : handOver.slot? <;>
      simp [HandOver.handles, tracker?, Tracker.ofHandOver?, hslot, Option.filter_some]

theorem Pending.fetch?_of_completion? {verb : Verb} {kind : Kind} {pending : Pending verb kind}
    {outcome : verb.Outcome} {k : Completion} (h : pending.completion? outcome = some k) :
    pending.fetch? = some k.fetch := by
  cases Pending.completes h <;> rfl

/-- What a read that may use the store is handed is adopted or rejected in the turn that hears of
it. -/
theorem Deed.length_handles_resumed {verb : Verb} {kind : Kind} {operation : Operation kind}
    {since : Nat} {pending : Pending verb kind} {outcome : verb.Outcome}
    {turn : Turn (Progress kind)}
    (hcaching : ∀ handOver, verb.handOver? outcome = some handOver →
      ∃ fetch, pending.fetch? = some fetch ∧ fetch.caching = true) :
    let deed : Deed := .resumed operation since pending outcome turn
    (HandOver.handles (verb.handOver? outcome)).length =
      deed.adopted?.isSome.toNat + deed.rejected?.isSome.toNat := by
  intro deed
  cases hk : pending.completion? outcome with
  | none =>
    rw [Pending.handOver_of_none hk]
    simp [deed, adopted?, rejected?, completion?, hk, HandOver.handles]
  | some k =>
    rw [Pending.handOver_of_completion? hk] at hcaching ⊢
    simp only [deed, adopted?, rejected?, completion?_resumed hk]
    cases hhandOver : k.handOver with
    | none =>
      have hnone : k.tracker? = none := by rw [Completion.tracker?, hhandOver, Option.bind_none]
      split <;> simp [HandOver.handles, hnone, hhandOver]
    | some handOver =>
      obtain ⟨fetch, hfetch, htrue⟩ := hcaching handOver hhandOver
      obtain rfl := Option.some.inj (hfetch.symm.trans (Pending.fetch?_of_completion? hk))
      rw [if_pos htrue, Option.bind_some, Option.bind_some, ← hhandOver]
      exact k.length_handles

/-- A turn leaves one call of its operation out at most. -/
theorem Progress.length_outstanding_le {kind : Kind} (operation : Operation kind) (since : Nat)
    (progress : Progress kind) : (progress.outstanding operation since).length ≤ 1 := by
  cases progress <;> simp [outstanding]

/-- What is counted of a call, when it is made or when it fails, is no adoption. -/
theorem Outstanding.not_mem_counted (o : Outstanding) :
    .trackerInstalled ∉ o.counted ∧ .trackerInstalled ∉ o.uncounted := by
  obtain ⟨operation, since, call, pending, noted, outcome⟩ := o
  cases outcome with
  | none => cases call <;> simp [counted, uncounted, Verb.counter?]
  | some outcome => cases hok : outcome.isOk <;> simp [counted, uncounted, hok]

/-- What adopts a tracker neither loses one nor is told to give one up. -/
theorem Moment.quiet_of_adopted {σ : Type} {m : Moment σ} (h : m.deed.adopted?.isSome = true) :
    m.findsFault = false ∧ m.clearsTracker = false := by
  obtain ⟨before, deed⟩ := m
  cases deed with
  | resumed => exact ⟨rfl, rfl⟩
  | began | noted | answered | cleared | moved => cases h

namespace Overlap

section Handed

variable {moves : Service → Service → Prop} {deed : Deed} {s s' start : Overlap Service}
  {log : List (Moment Service)}

/-- The service hands over what it has been asked for. -/
theorem Run.track_of_handOver (run : Run moves start log s) (fresh : start.Fresh) {o : Outstanding}
    (ho : o ∈ s.outstanding) {outcome : o.verb.Outcome} (houtcome : o.outcome = some outcome)
    {handOver : HandOver} (h : o.verb.handOver? outcome = some handOver) :
    o.call.track = true := by
  obtain ⟨t, m, -, -, -, -, hserved⟩ := (run.sound fresh o ho).answered outcome houtcome
  rw [← Bool.not_eq_false]
  intro hunasked
  have hnone :=
    Service.handOver?_answer m.before.provider m.before.cache.ns o.noted hunasked
  rw [hserved] at hnone
  cases hnone.symm.trans h

/-- Every handle that reaches the cache in a step is carried by its call, and one that is carried no
more has been adopted or rejected. -/
theorem Step.length_delivered (step : Step moves log.length s deed s') (run : Run moves start log s)
    (fresh : start.Fresh) :
    deed.delivered.length + s.carried.length =
      deed.adopted?.isSome.toNat + deed.rejected?.isSome.toNat + s'.carried.length := by
  cases step with
  | begin operation hturn =>
    simp [Deed.delivered, Deed.adopted?, Deed.rejected?, Deed.completion?, carried, settle,
      Progress.carried_outstanding]
  | note hout =>
    simp [Deed.delivered, Deed.adopted?, Deed.rejected?, Deed.completion?, carried, hout,
      Outstanding.carried]
  | answer hout =>
    simp only [Deed.delivered, Deed.adopted?, Deed.rejected?, Deed.completion?, carried, hout,
      Outstanding.carried, HandOver.handles, List.flatMap_append, List.flatMap_cons,
      List.length_append, Option.bind_none, Option.bind_some]
    simp only [Option.isSome_none, Bool.toNat_false, Option.toList_none, List.map_nil,
      List.length_nil]
    omega
  | @resume _ verb operation since call pending noted outcome turn before after hout hturn =>
    have hmem := mem_of_eq_append_cons hout
    have hlength : (HandOver.handles (verb.handOver? outcome)).length =
        (Deed.resumed operation since pending outcome turn).adopted?.isSome.toNat +
          (Deed.resumed operation since pending outcome turn).rejected?.isSome.toNat :=
      Deed.length_handles_resumed fun handOver h ↦
        run.caching_of_track fresh.outstanding _ hmem (run.track_of_handOver fresh hmem rfl h)
    simp only [Deed.delivered, carried, hout, settle, Outstanding.carried, List.flatMap_append,
      List.flatMap_cons, List.length_append, Progress.carried_outstanding, Option.bind_some,
      hlength, List.length_nil]
    omega
  | clear | move => rfl

/-- Every handle that has reached the cache was adopted or rejected, or a call carries it. -/
theorem Run.length_delivered (run : Run moves start log s) (fresh : start.Fresh) :
    (delivered log).length = log.countP (·.deed.adopted?.isSome) +
      log.countP (·.deed.rejected?.isSome) + s.carried.length := by
  induction run with
  | nil => simp [delivered, carried, fresh.outstanding]
  | @snoc log s s' deed run step ih =>
    have hstep := step.length_delivered run fresh
    rw [delivered_snoc, List.length_append, countP_concat, countP_concat]
    dsimp only
    omega

end Handed

/-! ## One thing at a time -/

section Sequential

variable {σ : Type} [Provider σ] {moves : σ → σ → Prop} {now : Nat} {deed : Deed}
  {s s' start : Overlap σ} {log : List (Moment σ)}

/-- Operations begin only when no other one is on its way. -/
def Sequential (log : List (Moment σ)) : Prop :=
  ∀ m ∈ log, m.deed.begins = true → m.before.outstanding.isEmpty = true

instance (log : List (Moment σ)) : Decidable (Sequential log) :=
  inferInstanceAs (Decidable (∀ m ∈ log, _))

/-- At most one operation is on its way, and while it asks for a hand-over there is no tracker. -/
structure Lone (s : Overlap σ) : Prop where
  length_le : s.outstanding.length ≤ 1
  untracked : ∀ o ∈ s.outstanding, o.call.track = true → s.cache.store.tracker = none

/-- Doing one thing at a time, a cache goes on to do so. -/
theorem Step.lone (step : Step moves now s deed s')
    (hseq : deed.begins = true → s.outstanding.isEmpty = true) (h : s.Lone) : s'.Lone := by
  cases step with
  | @begin _ operation turn hturn =>
    have hidle : s.outstanding = [] := List.isEmpty_iff.mp (hseq rfl)
    simp only [settle, hidle, List.nil_append]
    refine ⟨Progress.length_outstanding_le .., fun o ho htrack ↦ ?_⟩
    obtain ⟨verb, call, pending, hresult, rfl⟩ := Progress.eq_of_mem_outstanding ho
    rw [hturn] at hresult ⊢
    exact (Cache.of_track_start hresult htrack).2
  | note hout | answer hout =>
    obtain ⟨hlength, huntracked⟩ := h
    rw [hout] at hlength huntracked
    simp only [List.length_append, List.length_cons, List.mem_append, List.mem_cons]
      at hlength huntracked
    constructor
    · simp only [List.length_append, List.length_cons]
      exact hlength
    · intro o ho htrack
      simp only [List.mem_append, List.mem_cons] at ho
      rcases ho with ho | rfl | ho
      · exact huntracked o (.inl ho) htrack
      · exact huntracked _ (.inr (.inl rfl)) htrack
      · exact huntracked o (.inr (.inr ho)) htrack
  | @resume _ _ operation since _ _ _ _ turn before after hout hturn =>
    have hlength := h.length_le
    rw [hout, List.length_append, List.length_cons] at hlength
    obtain rfl : before = [] := List.eq_nil_of_length_eq_zero (by omega)
    obtain rfl : after = [] := List.eq_nil_of_length_eq_zero (by omega)
    simp only [settle, List.nil_append, List.append_nil]
    refine ⟨Progress.length_outstanding_le .., fun o ho htrack ↦ ?_⟩
    dsimp only at ho
    rw [Progress.track_of_mem_outstanding ho, hturn, Cache.asks_resume] at htrack
    cases htrack
  | clear => exact ⟨h.length_le, fun _ _ _ ↦ rfl⟩
  | move => exact ⟨h.length_le, h.untracked⟩

theorem Run.lone (run : Run moves start log s) (hidle : start.outstanding = [])
    (hseq : Sequential log) : s.Lone := by
  induction run with
  | nil =>
    constructor
    · rw [hidle]
      exact Nat.zero_le 1
    · rw [hidle]
      exact fun o ho ↦ absurd ho List.not_mem_nil
  | snoc run step ih =>
    refine step.lone (hseq _ List.mem_concat_self) (ih fun m hm ↦ ?_)
    exact hseq m (List.mem_append_left _ hm)

/-- A tracker that is there, or that is being adopted, is there afterwards unless it is lost or
given up. -/
theorem Step.tracking_or_lost (step : Step moves now s deed s') (hr : s.cache.store.Reporting)
    (h : deed.adopted?.isSome = true ∨ s.cache.isTracking = true) :
    s'.cache.isTracking = true ∨ (⟨s, deed⟩ : Moment σ).findsFault = true ∨
      (⟨s, deed⟩ : Moment σ).clearsTracker = true := by
  have hcount : ∀ adopts before faults clears after : Bool,
      adopts.toNat + before.toNat =
        faults.toNat + clears.toNat + (adopts && before).toNat + after.toNat →
      adopts = true ∨ before = true → after = true ∨ faults = true ∨ clears = true := by
    decide
  exact hcount _ _ _ _ _ (step.effect hr).trackers h

/-- A tracker that was adopted is there now, or one has been lost or given up since. -/
theorem Run.tracking_or_lost (run : Run moves start log s) (fresh : start.Fresh) {i : Nat}
    {m : Moment σ} (hm : log[i]? = some m) (hadopted : m.deed.adopted?.isSome = true) :
    s.cache.isTracking = true ∨ ∃ (k : Nat) (m' : Moment σ), i < k ∧ log[k]? = some m' ∧
      (m'.findsFault = true ∨ m'.clearsTracker = true) := by
  induction run with
  | nil => exact absurd hm (by simp)
  | @snoc log s s' deed run step ih =>
    have hr := run.reporting fresh
    rcases getElem?_snoc hm with hm | ⟨rfl, rfl⟩
    · rcases ih hm with htracking | ⟨k, m', hik, hk, hlost⟩
      · obtain ⟨hlt, -⟩ := List.getElem?_eq_some_iff.mp hm
        rcases step.tracking_or_lost hr (.inr htracking) with hafter | hlost
        · exact .inl hafter
        · exact .inr ⟨log.length, _, hlt, List.getElem?_concat_length, hlost⟩
      · exact .inr ⟨k, m', hik, getElem?_append_of_some hk _, hlost⟩
    · obtain ⟨hfault, hclears⟩ := Moment.quiet_of_adopted hadopted
      rcases step.tracking_or_lost hr (.inl hadopted) with hafter | hlost | hlost
      · exact .inl hafter
      · cases hfault.symm.trans hlost
      · cases hclears.symm.trans hlost

end Sequential

/-- The adoptions of a run are counted: no call on its way has anything to do with their count. -/
theorem Run.trackersInstalled_eq {σ : Type} [Provider σ] {moves : σ → σ → Prop}
    {start s : Overlap σ} {log : List (Moment σ)} (run : Run moves start log s) (new : start.New) :
    s.cache.stats.trackersInstalled =
      UInt64.ofNat (log.countP (·.deed.adopted?.isSome)) := by
  have heven : s.ahead .trackerInstalled = s.behind .trackerInstalled := by
    rw [ahead, behind, List.count_eq_zero_of_not_mem, List.count_eq_zero_of_not_mem]
    · rw [List.mem_flatMap]
      rintro ⟨o, -, ho⟩
      exact o.not_mem_counted.2 ho
    · rw [List.mem_flatMap]
      rintro ⟨o, -, ho⟩
      exact o.not_mem_counted.1 ho
  exact run.count_eq new heven

section Service

variable {moves : Service → Service → Prop} {start s : Overlap Service}
  {log : List (Moment Service)}

/-- Over the service, a cache that does one thing at a time puts no tracker in the place of another,
since it asks for none while it has one. -/
theorem Run.untracked_of_adopted (run : Run moves start log s) (fresh : start.Fresh)
    (hseq : Sequential log) {j : Nat} {m : Moment Service} (hm : log[j]? = some m)
    (hadopted : m.deed.adopted?.isSome = true) : m.before.cache.isTracking = false := by
  obtain ⟨run', s', step⟩ := run.at hm
  have hlone : m.before.Lone :=
    run'.lone fresh.outstanding fun m' hm' ↦ hseq m' (List.mem_of_mem_take hm')
  obtain ⟨before, deed⟩ := m
  dsimp only at run' step hlone hadopted ⊢
  cases deed with
  | began | noted | answered | cleared | moved => cases hadopted
  | resumed operation since pending outcome turn =>
    cases step with
    | resume hout hturn =>
      have hmem := mem_of_eq_append_cons hout
      obtain ⟨t, ht⟩ := Option.isSome_iff_exists.mp hadopted
      obtain ⟨k, hk, ht⟩ := Option.bind_eq_some_iff.mp ht
      obtain ⟨handOver, hhandOver, -⟩ := Option.bind_eq_some_iff.mp ht
      have hcompletes := (Option.filter_eq_some_iff.mp hk).1
      rw [← Pending.handOver_of_completion? hcompletes] at hhandOver
      have htrack := run'.track_of_handOver fresh hmem rfl hhandOver
      rw [Cache.isTracking, hlone.untracked _ hmem htrack]
      rfl

/-- Between two adoptions a tracker was lost or given up. -/
theorem Run.lost_between (run : Run moves start log s) (fresh : start.Fresh)
    (hseq : Sequential log) {i j : Nat} {m m' : Moment Service} (hm : log[i]? = some m)
    (hm' : log[j]? = some m') (hlt : i < j) (hadopted : m.deed.adopted?.isSome = true)
    (hadopted' : m'.deed.adopted?.isSome = true) :
    ∃ (k : Nat) (lost : Moment Service), i < k ∧ k < j ∧ log[k]? = some lost ∧
      (lost.findsFault = true ∨ lost.clearsTracker = true) := by
  obtain ⟨run', -⟩ := run.at hm'
  have hnone := run.untracked_of_adopted fresh hseq hm' hadopted'
  have hbefore : (log.take j)[i]? = some m := by
    rw [List.getElem?_take, if_pos hlt, hm]
  rcases run'.tracking_or_lost fresh hbefore hadopted with htracking | ⟨k, lost, hik, hk, hlost⟩
  · cases hnone.symm.trans htracking
  · obtain ⟨hkj, hk⟩ := getElem?_of_take hk
    exact ⟨k, lost, hik, hkj, hk, hlost⟩

/-- What the service hands over is put to use, as far as it can be: every handle was adopted or
rejected for an unusable index, or a call on its way carries it, the adoptions are counted, and
between two of them a tracker was lost or given up, if the cache did one thing at a time. -/
structure HandedAsNeeded (log : List (Moment Service)) (s : Overlap Service) : Prop where
  handles : (delivered log).length = log.countP (·.deed.adopted?.isSome) +
    log.countP (·.deed.rejected?.isSome) + s.carried.length
  installed : s.cache.stats.trackersInstalled =
    UInt64.ofNat (log.countP (·.deed.adopted?.isSome))
  apart (hseq : Sequential log) {i j : Nat} {m m' : Moment Service} (hm : log[i]? = some m)
    (hm' : log[j]? = some m') (hlt : i < j) (hadopted : m.deed.adopted?.isSome = true)
    (hadopted' : m'.deed.adopted?.isSome = true) :
    ∃ (k : Nat) (lost : Moment Service), i < k ∧ k < j ∧ log[k]? = some lost ∧
      (lost.findsFault = true ∨ lost.clearsTracker = true)

theorem Run.handedAsNeeded (run : Run moves start log s) (new : start.New) :
    HandedAsNeeded log s where
  handles := run.length_delivered new.toFresh
  installed := run.trackersInstalled_eq new
  apart hseq _ _ _ _ hm hm' hlt hadopted hadopted' :=
    run.lost_between new.toFresh hseq hm hm' hlt hadopted hadopted'

/-- Whatever the provider and the configuration, and however operations overlap, a request asks for
a hand-over just if it is for the owner, trackers are wanted and the check has left none; and over
the service what is handed over is put to use. -/
theorem asks_as_needed :
    (∀ {σ : Type} [Provider σ] {moves : σ → σ → Prop} {start s : Overlap σ}
      {log : List (Moment σ)}, Run moves start log s → start.Fresh →
      ∀ m ∈ log, AsksAsNeeded start.cache.owner start.cache.config m) ∧
    ∀ {moves : Service → Service → Prop} {start s : Overlap Service}
      {log : List (Moment Service)}, Run moves start log s → start.New → HandedAsNeeded log s :=
  ⟨fun run fresh ↦ run.asksAsNeeded fresh, fun run new ↦ run.handedAsNeeded new⟩

/-- A lookup that is handed a tracker, a hit, a clearing, and a listing that is handed another. -/
def trackedAgain : List Act :=
  [.begin (.lookup "wifi_on" .primary), .answer 0, .resume 0, .begin (.lookup "wifi_on" .primary),
    .clear, .begin (.list "" .primary), .answer 0, .resume 0]

theorem asks_as_needed_trackedAgain :
    let played := seeded.play [] trackedAgain
    (∀ m ∈ played.1, AsksAsNeeded .primary {} m) ∧ HandedAsNeeded played.1 played.2 ∧
      Sequential played.1 ∧ played.1.countP (·.deed.adopted?.isSome) = 2 := by
  intro played
  have run : Run (fun _ _ ↦ False) seeded played.1 played.2 := Run.nil.play trackedAgain
  exact ⟨asks_as_needed.1 run fresh_seeded, asks_as_needed.2 run ⟨fresh_seeded, rfl⟩,
    by decide +kernel, rfl⟩

end Service

end Overlap

end SettingsCache
