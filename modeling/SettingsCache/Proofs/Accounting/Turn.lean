import SettingsCache.Proofs.Provenance

/-!
# What a turn counts

Every turn of a cache counts what happens in it: what the check of the tracker finds, whether the
read is answered by what is kept, the failure of the call that it goes on from, the tracker that it
adopts, and the call that it makes. `stats_start` and `stats_resume` list these events for the first
turn of an operation and for a later one.
-/

namespace SettingsCache

namespace Stats

/-- Count one event after another. -/
def recordAll (s : Stats) (counters : List Counter) : Stats := counters.foldl record s

@[simp] theorem recordAll_nil (s : Stats) : s.recordAll [] = s := rfl

theorem recordAll_append (s : Stats) (counters later : List Counter) :
    s.recordAll (counters ++ later) = (s.recordAll counters).recordAll later :=
  List.foldl_append

/-- Each counter moves on by the number of times that it is recorded. -/
theorem count_recordAll (s : Stats) (counters : List Counter) (counter : Counter) :
    (s.recordAll counters).count counter =
      s.count counter + UInt64.ofNat (counters.count counter) := by
  induction counters generalizing s with
  | nil => exact (UInt64.add_zero _).symm
  | cons recorded rest ih =>
    have hrest := ih (s.record recorded)
    rw [count_record] at hrest
    refine hrest.trans ?_
    by_cases h : counter = recorded
    · subst h
      rw [if_pos rfl, List.count_cons_self, UInt64.ofNat_add, UInt64.add_assoc,
        UInt64.add_comm 1]
      rfl
    · rw [if_neg h, List.count_cons_of_ne (Ne.symm h)]

end Stats

/-! ## First turns -/

/-- What the check of the tracker counts, if there is a tracker. -/
def Store.counted (s : Store) (view : BlockView) : List Counter :=
  match s.tracker with
  | none => []
  | some t =>
    match view t.handle t.slot with
    | .error _ => [.trackerError]
    | .ok g => if g = t.accepted then [] else [.invalidation]

/-- The counter of the calls of a verb, if they are counted. -/
def Verb.counter? : Verb → Option Counter
  | .get => some .fastPathCall
  | .query => some .fallbackQuery
  | .list => some .listCall
  | .put | .reset => none

namespace Progress

variable {kind : Kind}

/-- What is counted of the call that an operation makes, if it makes one. -/
def counted : Progress kind → List Counter
  | .done _ => []
  | @calling _ verb _ _ => verb.counter?.toList

/-- Whether an operation is finished and went well. -/
def succeeded : {kind : Kind} → Progress kind → Bool
  | .lookup, .done answer => answer.isOk
  | .listing, .done answer => answer.isOk
  | .write, .done answer => answer
  | _, .calling _ _ => false

end Progress

namespace Cache

/-- What a turn counts besides a list of events is the call that it makes, and it does not bring the
operation to a good end. -/
structure CountsCall {kind : Kind} (c : Cache) (turn : Turn (Progress kind)) : Prop where
  stats : turn.cache.stats = c.stats.recordAll turn.result.counted
  unanswered : turn.result.succeeded = false

theorem countsCall_fallBack (c : Cache) (fetch : Fetch) (name : String) (e : RemoteError) :
    c.CountsCall (c.fallBack fetch name e) := by
  unfold fallBack
  split <;> exact ⟨rfl, rfl⟩

theorem countsCall_goOutForLookup (c : Cache) (fetch : Fetch) (name : String) :
    c.CountsCall (c.goOutForLookup fetch name) := by
  unfold goOutForLookup
  split
  · exact ⟨rfl, rfl⟩
  · exact countsCall_fallBack ..

theorem countsCall_goOutForListing (c : Cache) (fetch : Fetch) (stem : String) :
    c.CountsCall (c.goOutForListing fetch stem) := by
  unfold goOutForListing
  split <;> exact ⟨rfl, rfl⟩

theorem stats_sync (c : Cache) (view : BlockView) (hr : c.store.Reporting) :
    (c.sync view).cache.stats = c.stats.recordAll (c.store.counted view) := by
  cases ht : c.store.tracker with
  | none => simp [sync, Store.counted, ht]
  | some t =>
    have hrep := hr t ht
    cases hv : view t.handle t.slot with
    | error e =>
      simp only [sync, Store.counted, ht, hv, Tracker.check, Tracker.report, hrep]
      rfl
    | ok g =>
      by_cases hg : g = t.accepted
      · simp [sync, Store.counted, ht, hv, Tracker.check, hg]
      · simp only [sync, Store.counted, ht, hv, Tracker.check, hg, if_false]
        rfl

/-- What the first turn of a read counts before it is known whether the read is answered. -/
def checkCounted (c : Cache) (view : BlockView) (user : UserId) : List Counter :=
  if c.caches user then c.store.counted view else []

theorem stats_beginRead (c : Cache) (view : BlockView) (user : UserId)
    (hr : c.store.Reporting) :
    (c.beginRead view user).cache.stats = c.stats.recordAll (c.checkCounted view user) := by
  unfold checkCounted
  cases hc : c.caches user with
  | true =>
    have h : (Scope.resolve user c.owner).isOwn && c.config.caching := hc
    simp only [beginRead, h, ite_true]
    exact stats_sync c view hr
  | false =>
    have h : ((Scope.resolve user c.owner).isOwn && c.config.caching) = false := hc
    simp [beginRead, h]

/-- What is counted of the outcome of a read, those for other users not being counted. -/
def readCounted (c : Cache) (user : UserId) (succeeded : Bool) : List Counter :=
  if user = c.owner then [if succeeded then .hit else .miss] else []

/-- A read for the owner names no user. -/
theorem isNone_user_iff {c : Cache} {user : UserId} {fetch : Fetch} (hf : fetch.For c user) :
    fetch.user.isNone = true ↔ user = c.owner := by
  rw [hf.user_eq, Scope.resolve]
  by_cases h : user = c.owner <;> simp [h, Scope.wireUser]

/-- A read that goes out is counted if it is for the owner. -/
theorem stats_recordMiss (b : Cache) {c : Cache} {user : UserId} {fetch : Fetch}
    (hf : fetch.For c user) :
    (b.recordMiss fetch).stats = b.stats.recordAll (c.readCounted user false) := by
  unfold recordMiss readCounted
  by_cases h : user = c.owner
  · rw [if_pos ((isNone_user_iff hf).mpr h), if_pos h]
    rfl
  · rw [if_neg (mt (isNone_user_iff hf).mp h), if_neg h]
    rfl

theorem stats_of_bind {c : Cache} {view : BlockView} {user : UserId} {kind : Kind}
    {f : Cache → Fetch → Turn (Progress kind)} (hr : c.store.Reporting)
    (hf : ∀ b, let turn := f b (c.beginRead view user).result
      turn.cache.stats = b.stats.recordAll
        (c.readCounted user turn.result.succeeded ++ turn.result.counted)) :
    let turn := (c.beginRead view user).bind f
    turn.cache.stats = c.stats.recordAll (c.checkCounted view user ++
      (c.readCounted user turn.result.succeeded ++ turn.result.counted)) := by
  intro turn
  rw [Stats.recordAll_append, ← stats_beginRead c view user hr]
  exact hf _

/-- A read that is answered by what is kept is for the owner. -/
theorem eq_owner_of_observed {c : Cache} {view : BlockView} {user : UserId} {g : Generation}
    (hr : c.store.Reporting) (ho : (c.beginRead view user).result.observed = some g) :
    user = c.owner := by
  have hchecked := beginRead_checked c view user hr
  rw [ho] at hchecked
  exact eq_owner_of_caches hchecked.caching_eq

/-- What the first turn of an operation counts of a read, apart from the call that it makes. -/
def startCounted (c : Cache) (view : BlockView) {kind : Kind} (operation : Operation kind)
    (succeeded : Bool) : List Counter :=
  match operation.reader? with
  | some user => c.checkCounted view user ++ c.readCounted user succeeded
  | none => []

/-- The first turn of an operation counts what the check of the tracker finds, how the read is
answered, and the call that is made. -/
theorem stats_start (c : Cache) (view : BlockView) {kind : Kind} (operation : Operation kind)
    (hr : c.store.Reporting) :
    let turn := c.start view operation
    turn.cache.stats = c.stats.recordAll
      (c.startCounted view operation turn.result.succeeded ++ turn.result.counted) := by
  have hmiss (b : Cache) {fetch : Fetch} {user : UserId} (hf : fetch.For c user)
      {turn : Turn (Progress kind)} (hcounts : (b.recordMiss fetch).CountsCall turn) :
      turn.cache.stats = b.stats.recordAll
        (c.readCounted user turn.result.succeeded ++ turn.result.counted) := by
    rw [hcounts.unanswered, hcounts.stats, stats_recordMiss b hf, Stats.recordAll_append]
  cases operation with
  | lookup name user =>
    dsimp only [startCounted, Operation.reader?]
    rw [List.append_assoc]
    refine stats_of_bind hr fun b ↦ ?_
    dsimp only
    split
    · next hknown =>
      obtain ⟨g, ho, -⟩ := Option.bind_eq_some_iff.mp hknown
      rw [readCounted, if_pos (eq_owner_of_observed hr ho)]
      rfl
    · exact hmiss b (fetch_beginRead c view user) (countsCall_goOutForLookup ..)
  | list stem user =>
    dsimp only [startCounted, Operation.reader?]
    rw [List.append_assoc]
    refine stats_of_bind hr fun b ↦ ?_
    dsimp only
    split
    · next hknown =>
      unfold knownListing? at hknown
      split at hknown
      · next hboth =>
        obtain ⟨g, ho⟩ := Option.isSome_iff_exists.mp (Bool.and_eq_true_iff.mp hboth).1
        rw [readCounted, if_pos (eq_owner_of_observed hr ho)]
        rfl
      · cases hknown
    · exact hmiss b (fetch_beginRead c view user) (countsCall_goOutForListing ..)
  | put | reset => rfl

/-! ## Later turns -/

/-- What the completion of a read counts. -/
def completionCounted (completion : Option Completion) : List Counter :=
  if ((completion.filter (·.fetch.caching)).bind Completion.tracker?).isSome then
    [.trackerInstalled]
  else []

theorem stats_complete (c : Cache) (fetch : Fetch) (handOver : Option HandOver)
    (finding : Finding) :
    (c.complete fetch handOver fun store ↦ store.keep finding).cache.stats =
      c.stats.recordAll (completionCounted (some ⟨fetch, handOver, finding⟩)) := by
  cases hc : fetch.caching with
  | false => simp [complete, completionCounted, Option.filter_some, hc]
  | true =>
    cases ht : Completion.tracker? ⟨fetch, handOver, finding⟩ with
    | none =>
      simp only [complete, completionCounted, hc, ht, if_true, Turn.bind, adopt?_of_none c ht,
        Option.filter_some, Option.bind_some, Option.isSome_none]
      split <;> rfl
    | some t =>
      simp only [complete, completionCounted, hc, ht, if_true, Turn.bind, adopt?_of_some c ht,
        Option.filter_some, Option.bind_some, Option.isSome_some]
      split <;> rfl

/-- What a later turn of an operation counts, apart from the call that it makes. -/
def resumeCounted {verb : Verb} {kind : Kind} (pending : Pending verb kind)
    (outcome : verb.Outcome) : List Counter :=
  (if outcome.isOk then [] else [.remoteError]) ++ completionCounted (pending.completion? outcome)

/-- A later turn of an operation counts the failure of the call that it goes on from, the tracker
that it adopts, and the call that is made. -/
theorem stats_resume (c : Cache) {verb : Verb} {kind : Kind} (pending : Pending verb kind)
    (outcome : verb.Outcome) :
    let turn := c.resume pending outcome
    turn.cache.stats =
      c.stats.recordAll (resumeCounted pending outcome ++ turn.result.counted) := by
  cases pending <;> rcases outcome with e | reply
  case get.error name fetch =>
    exact (countsCall_fallBack (c.record .remoteError) fetch name e).stats
  case get.ok name fetch =>
    rcases reply with _ | reply
    · exact (countsCall_fallBack c fetch name _).stats
    · have h := stats_complete c fetch reply.handOver (.value name reply.value)
      rw [← List.append_nil (completionCounted _)] at h
      exact h
  case query.ok name fetch =>
    have h := stats_complete c fetch none
      (.value name ((reply.filter fun row ↦ row.name == name).bind Row.value))
    rw [← List.append_nil (completionCounted _)] at h
    exact h
  case list.ok stem fetch =>
    have h := stats_complete c fetch reply.handOver (.listing stem reply.values)
    rw [← List.append_nil (completionCounted _)] at h
    exact h
  all_goals rfl

end Cache

end SettingsCache
