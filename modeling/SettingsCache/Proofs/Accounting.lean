import Mathlib.Algebra.Group.Nat.Defs
import SettingsCache.Proofs.Accounting.Turn

/-!
# The statistics account for the traffic

The counters of a cache are compared with the log of a run: with the reads that were made, the calls
that the provider answered, what the checks of the tracker found and where trackers came from and
went. `Step.balance` and its like say what one moment does to both sides, and `Run.accounts` what a
run comes to.

While an operation is on its way the two sides differ by the calls that are out: such a call is
counted as it is made, and its failure as the operation goes on.
-/

namespace SettingsCache

/-! ## Traffic -/

/-- Whether an access reads the block. -/
def Access.isRead : Access → Bool
  | .read _ _ => true
  | .close _ => false

namespace Deed

/-- Whether the provider answers a call of a verb. -/
def answers (verb : Verb) : Deed → Bool
  | @answered found _ _ => found == verb
  | .began _ _ _ | .noted _ _ | .resumed _ _ _ _ _ | .cleared _ | .moved => false

/-- Whether a call fails. -/
def fails : Deed → Bool
  | .answered _ outcome => !outcome.isOk
  | .began _ _ _ | .noted _ _ | .resumed _ _ _ _ _ | .cleared _ | .moved => false

/-- Whether an operation goes well in its first turn. -/
def succeedsAtOnce : Deed → Bool
  | .began _ _ turn => turn.result.succeeded
  | .resumed _ _ _ _ _ | .noted _ _ | .answered _ _ | .cleared _ | .moved => false

/-- Whether the cache is told to give up what it holds. -/
def isClearing : Deed → Bool
  | .cleared _ => true
  | .began _ _ _ | .resumed _ _ _ _ _ | .noted _ _ | .answered _ _ | .moved => false

end Deed

namespace Moment

variable {σ : Type}

/-- Whether a read for the cache's owner begins. -/
def ownRead (m : Moment σ) : Bool :=
  match m.deed with
  | .began operation _ _ => operation.reader? == some m.before.cache.owner
  | .resumed _ _ _ _ _ | .noted _ _ | .answered _ _ | .cleared _ | .moved => false

/-- The tracker that an operation finds as it begins, if it may use what is kept, and what the block
shows of the tracker's slot. -/
def check? (m : Moment σ) : Option (Tracker × Except ArrayError Generation) :=
  match m.deed with
  | .began operation view _ =>
    if m.before.cache.checks operation then
      m.before.cache.store.tracker.map fun t ↦ (t, view t.handle t.slot)
    else none
  | .resumed _ _ _ _ _ | .noted _ _ | .answered _ _ | .cleared _ | .moved => none

/-- Whether a check finds another generation than the accepted one. -/
def findsChange (m : Moment σ) : Bool :=
  match m.check? with
  | some (t, .ok g) => g != t.accepted
  | some (_, .error _) | none => false

/-- Whether a check cannot read the block. -/
def findsFault (m : Moment σ) : Bool :=
  match m.check? with
  | some (_, .error _) => true
  | some (_, .ok _) | none => false

/-- Whether a tracker is given up because the cache is told to. -/
def clearsTracker (m : Moment σ) : Bool := m.deed.isClearing && m.before.cache.isTracking

/-- Whether a tracker is put in the place of another. -/
def replacesTracker (m : Moment σ) : Bool :=
  m.deed.adopted?.isSome && m.before.cache.isTracking

/-- Whether the event that a counter stands for happens at a moment. -/
def counts (m : Moment σ) : Counter → Bool
  | .hit => m.ownRead && m.deed.succeedsAtOnce
  | .miss => m.ownRead && !m.deed.succeedsAtOnce
  | .fastPathCall => m.deed.answers .get
  | .fallbackQuery => m.deed.answers .query
  | .listCall => m.deed.answers .list
  | .remoteError => m.deed.fails
  | .invalidation => m.findsChange
  | .trackerError => m.findsFault
  | .trackerInstalled => m.deed.adopted?.isSome

/-- What the cache counts at a moment. -/
def recorded (m : Moment σ) : List Counter :=
  match m.deed with
  | .began operation view turn =>
    m.before.cache.startCounted view operation turn.result.succeeded ++ turn.result.counted
  | .resumed _ _ pending outcome turn =>
    Cache.resumeCounted pending outcome ++ turn.result.counted
  | .noted _ _ | .answered _ _ | .cleared _ | .moved => []

end Moment

/-! ## One moment -/

namespace Outstanding

/-- What has been counted of a call that is not answered yet. -/
def counted (o : Outstanding) : List Counter :=
  match o.outcome with
  | none => o.verb.counter?.toList
  | some _ => []

/-- What is still to be counted of a call that has failed. -/
def uncounted (o : Outstanding) : List Counter :=
  match o.outcome with
  | none => []
  | some outcome => if outcome.isOk then [] else [.remoteError]

end Outstanding

namespace Progress

variable {kind : Kind} (operation : Operation kind) (since : Nat) (progress : Progress kind)

theorem counted_outstanding :
    (progress.outstanding operation since).flatMap Outstanding.counted = progress.counted := by
  cases progress with
  | done => rfl
  | calling => exact List.append_nil _

theorem uncounted_outstanding :
    (progress.outstanding operation since).flatMap Outstanding.uncounted = [] := by
  cases progress <;> rfl

end Progress

/-- An event that may happen is counted if it does. -/
theorem count_optional (happens : Bool) (event counter : Counter) :
    (if happens then [event] else []).count counter =
      (happens && decide (event = counter)).toNat := by
  cases happens with
  | false => rfl
  | true => by_cases h : event = counter <;> simp [h]

/-- A check counts what it finds. -/
theorem Moment.checkCounted_eq {σ : Type} {m : Moment σ} {kind : Kind}
    {operation : Operation kind} {view : BlockView} {turn : Turn (Progress kind)} {user : UserId}
    (hm : m.deed = .began operation view turn)
    (hchecks : m.before.cache.checks operation = m.before.cache.caches user) :
    m.before.cache.checkCounted view user =
      (if m.findsChange then [.invalidation] else []) ++
        if m.findsFault then [.trackerError] else [] := by
  simp only [Cache.checkCounted, Store.counted, findsChange, findsFault, check?, hm, hchecks]
  cases m.before.cache.caches user with
  | false => rfl
  | true =>
    cases m.before.cache.store.tracker with
    | none => rfl
    | some t =>
      cases hview : view t.handle t.slot with
      | error e => simp [hview]
      | ok g => by_cases hg : g = t.accepted <;> simp [hview, hg]

/-- The first turn of an operation counts just what happens, apart from the call that it makes. -/
theorem Moment.count_startCounted {σ : Type} {m : Moment σ} {kind : Kind}
    {operation : Operation kind} {view : BlockView} {turn : Turn (Progress kind)}
    (hm : m.deed = .began operation view turn) (counter : Counter) :
    (m.before.cache.startCounted view operation turn.result.succeeded).count counter =
      (m.counts counter).toNat := by
  have hquiet : (∀ verb, m.deed.answers verb = false) ∧ m.deed.fails = false ∧
      m.deed.adopted? = none := by
    simp [hm, Deed.answers, Deed.fails, Deed.adopted?, Deed.completion?]
  have hatOnce : m.deed.succeedsAtOnce = turn.result.succeeded := by
    simp only [hm, Deed.succeedsAtOnce]
  have hread (user : UserId) (hreader : operation.reader? = some user)
      (hchecks : m.before.cache.checks operation = m.before.cache.caches user) :
      (m.before.cache.checkCounted view user ++
        m.before.cache.readCounted user turn.result.succeeded).count counter =
      (m.counts counter).toNat := by
    have hown : m.ownRead = (user == m.before.cache.owner) := by
      simp only [ownRead, hm, hreader, Option.some_beq_some]
    have hcounted : m.before.cache.readCounted user turn.result.succeeded =
        if m.ownRead then [if m.deed.succeedsAtOnce then .hit else .miss] else [] := by
      simp only [Cache.readCounted, hown, beq_iff_eq, hatOnce]
    -- What the check finds and how the read ends are all that a read counts before its call.
    rw [checkCounted_eq hm hchecks, hcounted, List.count_append, List.count_append,
      count_optional, count_optional, count_optional]
    cases hs : m.deed.succeedsAtOnce <;> cases counter <;> simp [counts, hquiet, hs]
  cases operation with
  | lookup name user => exact hread user rfl rfl
  | list stem user => exact hread user rfl rfl
  | put | reset =>
    have hnone : m.ownRead = false ∧ m.check? = none := by
      simp [ownRead, check?, hm, Operation.reader?, Cache.checks]
    cases counter <;> simp [counts, hquiet, hnone, findsChange, findsFault, Cache.startCounted,
      Operation.reader?]

/-- A later turn of an operation counts just what happens, apart from the call that it makes. -/
theorem Moment.count_resumeCounted {σ : Type} {m : Moment σ} {verb : Verb} {kind : Kind}
    {operation : Operation kind} {since : Nat} {pending : Pending verb kind}
    {outcome : verb.Outcome} {turn : Turn (Progress kind)}
    (hm : m.deed = .resumed operation since pending outcome turn) (counter : Counter) :
    (Cache.completionCounted (pending.completion? outcome)).count counter =
      (m.counts counter).toNat := by
  have hquiet : (∀ verb, m.deed.answers verb = false) ∧ m.deed.fails = false ∧
      m.ownRead = false ∧ m.check? = none := by
    simp [hm, Deed.answers, Deed.fails, ownRead, check?]
  have hadopted : m.deed.adopted? =
      ((pending.completion? outcome).filter (·.fetch.caching)).bind Completion.tracker? := by
    rw [hm, Deed.adopted?, Deed.completion?]
  rw [Cache.completionCounted, ← hadopted, count_optional]
  cases counter <;> simp [counts, hquiet, findsChange, findsFault]

/-- The answer to a call is counted by its verb, as the call is made, and by its failure, as the
operation goes on. -/
theorem Moment.count_answered {σ : Type} {m : Moment σ} {verb : Verb} {call : Call verb}
    {outcome : verb.Outcome} (hm : m.deed = .answered call outcome) (counter : Counter) :
    verb.counter?.toList.count counter +
      (if outcome.isOk then [] else [Counter.remoteError]).count counter =
    (m.counts counter).toNat := by
  have hquiet : m.deed.adopted? = none ∧ m.ownRead = false ∧ m.check? = none := by
    simp [hm, Deed.adopted?, Deed.completion?, ownRead, check?]
  have hanswers (asked : Verb) : m.deed.answers asked = decide (verb = asked) := by
    rw [hm, Deed.answers]
    exact Bool.beq_eq_decide_eq verb asked
  have hfails : m.deed.fails = !outcome.isOk := by
    rw [hm, Deed.fails]
  cases hok : outcome.isOk <;> cases verb <;> cases counter <;>
    simp [counts, hquiet, hanswers, hfails, hok, findsChange, findsFault, Verb.counter?]

namespace Overlap

variable {σ : Type}

/-- How often a counter has been moved on for calls that are not answered yet. -/
def ahead (s : Overlap σ) (counter : Counter) : Nat :=
  (s.outstanding.flatMap Outstanding.counted).count counter

/-- How often a counter is still to be moved on for calls that have failed. -/
def behind (s : Overlap σ) (counter : Counter) : Nat :=
  (s.outstanding.flatMap Outstanding.uncounted).count counter

variable [Provider σ] {moves : σ → σ → Prop} {now : Nat} {deed : Deed}
  {start s s' : Overlap σ} {log : List (Moment σ)}

/-- What a turn counts is what its moment records. -/
theorem Step.stats (h : Step moves now s deed s') (hr : s.cache.store.Reporting) :
    s'.cache.stats = s.cache.stats.recordAll (⟨s, deed⟩ : Moment σ).recorded := by
  cases h with
  | begin operation hturn =>
    rw [hturn]
    exact Cache.stats_start s.cache (Provider.view s.provider) operation hr
  | resume hout hturn =>
    rw [hturn]
    exact Cache.stats_resume ..
  | note | answer | clear | move => rfl

/-- One moment moves each counter on by what happens, up to the calls that are out. -/
theorem Step.balance (h : Step moves now s deed s') (counter : Counter) :
    (⟨s, deed⟩ : Moment σ).recorded.count counter + s.ahead counter + s'.behind counter =
      ((⟨s, deed⟩ : Moment σ).counts counter).toNat + s'.ahead counter + s.behind counter := by
  cases h with
  | @begin _ operation turn hturn =>
    have hcount := Moment.count_startCounted
      (m := ⟨s, .began operation (Provider.view s.provider) turn⟩) rfl counter
    simp only [Moment.recorded, ahead, behind, settle, List.flatMap_append, List.count_append,
      Progress.counted_outstanding, Progress.uncounted_outstanding, List.count_nil, hcount]
    omega
  | note hout hnote =>
    simp only [ahead, behind, hout, List.flatMap_append, List.flatMap_cons, List.count_append,
      Outstanding.counted, Outstanding.uncounted]
    cases counter <;> rfl
  | @answer _ _ _ since call pending _ outcome before after hout hanswer =>
    have hcount := Moment.count_answered (m := ⟨s, .answered call outcome⟩) rfl counter
    simp only [Moment.recorded, ahead, behind, hout, List.flatMap_append, List.flatMap_cons,
      List.count_append, List.count_nil, Outstanding.counted, Outstanding.uncounted, ← hcount]
    omega
  | @resume _ _ operation since _ pending _ outcome turn before after hout hturn =>
    have hcount := Moment.count_resumeCounted
      (m := ⟨s, .resumed operation since pending outcome turn⟩) rfl counter
    simp only [Moment.recorded, ahead, behind, settle, hout, List.flatMap_append,
      List.flatMap_cons, List.count_append, Progress.counted_outstanding,
      Progress.uncounted_outstanding, List.count_nil, Cache.resumeCounted, Outstanding.counted,
      Outstanding.uncounted, hcount]
    omega
  | clear | move => cases counter <;> rfl

end Overlap

namespace Effect

variable {σ : Type} {s : Overlap σ} {view : BlockView} {out : List Outstanding} {deed : Deed}
  {store : Store}

/-- A moment reads the block once if a read checks the tracker, and not at all otherwise. -/
theorem blockReads (h : Effect s.cache view out deed store) :
    deed.accesses.countP Access.isRead = (⟨s, deed⟩ : Moment σ).check?.isSome.toNat := by
  have hclosing (accesses : List Access) (hnone : ∀ handle slot, .read handle slot ∉ accesses) :
      accesses.countP Access.isRead = 0 := by
    rw [List.countP_eq_zero]
    intro access hmem hread
    cases access with
    | read handle slot => exact hnone handle slot hmem
    | close => cases hread
  cases h with
  | @began _ operation turn fetch h =>
    have hchecked := h.checked
    simp only [Moment.check?, Deed.accesses]
    generalize turn.accesses = accesses, turn.cache.store = store, fetch.observed = observed
      at hchecked ⊢
    cases hchecked with
    | skipped h => by_cases hc : s.cache.checks operation = true <;> simp [hc, h]
    | lost hc ht | moved hc ht | steady hc ht => simp [hc, ht, List.countP_cons, Access.isRead]
  | completed hout hk h => exact hclosing _ h.no_read
  | quiet hk ha =>
    simp only [Deed.accesses, ha]
    rfl
  | cleared =>
    apply hclosing
    simp [Deed.accesses, Cache.clear, Cache.releaseTracker]
  | noted | answered | moved => rfl

/-- A tracker that is there after a moment was there before it or has been adopted, and one that is
not there any more has been lost, given up or replaced. -/
theorem trackers (h : Effect s.cache view out deed store) :
    let m : Moment σ := ⟨s, deed⟩
    deed.adopted?.isSome.toNat + s.cache.store.tracker.isSome.toNat =
      m.findsFault.toNat + m.clearsTracker.toNat + m.replacesTracker.toNat +
        store.tracker.isSome.toNat := by
  simp only [Moment.findsFault, Moment.clearsTracker, Moment.replacesTracker, Cache.isTracking]
  cases h with
  | @began _ operation turn fetch h =>
    have hchecked := h.checked
    have hadopted : (Deed.began operation view turn).adopted? = none := rfl
    simp only [Moment.check?, hadopted, Deed.isClearing]
    generalize turn.accesses = accesses, turn.cache.store = store, fetch.observed = observed
      at hchecked ⊢
    cases hchecked with
    | skipped h => by_cases hc : s.cache.checks operation = true <;> simp [hc, h]
    | lost hc ht hview | moved hc ht hview | steady hc ht hview => simp [hc, ht, hview]
  | @completed _ _ _ _ _ _ _ _ turn _ _ hout hk h =>
    simp only [Moment.check?, Deed.adopted?, Deed.completion?_resumed hk, Deed.isClearing]
    generalize turn.accesses = accesses, turn.cache.store = store at h ⊢
    cases h with
    | foreign hc => simp [hc]
    | late hc ht | kept hc ht => simp [hc, ht]
    | adopted hc ht => simp [hc, ht, Nat.add_comm]
  | quiet hk =>
    simp [Moment.check?, Deed.adopted?, Deed.completion?, Deed.isClearing, hk]
  | cleared | noted | answered | moved =>
    simp [Moment.check?, Deed.adopted?, Deed.completion?, Deed.isClearing]

end Effect

/-! ## Whole runs -/

theorem countP_concat {α : Type} (p : α → Bool) (l : List α) (a : α) :
    (l ++ [a]).countP p = l.countP p + (p a).toNat := by
  rw [List.countP_append, List.countP_singleton]
  cases p a <;> rfl

namespace Overlap

variable {σ : Type}

/-- A cache that has neither kept nor counted anything yet, with no operation on its way. -/
structure New (s : Overlap σ) : Prop extends Fresh s where
  stats : s.cache.stats = {}

variable [Provider σ] {moves : σ → σ → Prop} {start s : Overlap σ} {log : List (Moment σ)}

theorem Run.stats (run : Run moves start log s) (fresh : start.Fresh) :
    s.cache.stats = start.cache.stats.recordAll (log.flatMap Moment.recorded) := by
  induction run with
  | nil => rfl
  | snoc run step ih =>
    rw [step.stats (run.reporting fresh), ih, List.flatMap_append, Stats.recordAll_append,
      List.flatMap_singleton]

/-- A run moves each counter on by what happened in it, up to the calls that are out. -/
theorem Run.balance (run : Run moves start log s) (fresh : start.Fresh) (counter : Counter) :
    (log.flatMap Moment.recorded).count counter + s.behind counter =
      log.countP (·.counts counter) + s.ahead counter := by
  induction run with
  | nil => simp [ahead, behind, fresh.outstanding]
  | @snoc log s s' deed run step ih =>
    have hstep := step.balance counter
    rw [List.flatMap_append, List.flatMap_singleton, List.count_append, countP_concat]
    omega

/-- A counter is the number of times that its event happened, as far as a word can tell, if the
calls that are out have moved it on as often as they have still to. -/
theorem Run.count_eq (run : Run moves start log s) (new : start.New) {counter : Counter}
    (heven : s.ahead counter = s.behind counter) :
    s.cache.stats.count counter = UInt64.ofNat (log.countP (·.counts counter)) := by
  have hbalance := run.balance new.toFresh counter
  have hlog : (log.flatMap Moment.recorded).count counter = log.countP (·.counts counter) := by
    omega
  rw [run.stats new.toFresh, Stats.count_recordAll, new.stats, hlog]
  cases counter <;> exact UInt64.zero_add _

/-- With no operation on its way, a counter is the number of times that its event happened. -/
theorem Run.count_stats (run : Run moves start log s) (new : start.New)
    (idle : s.outstanding = []) {counter : Counter}
    (hlt : log.countP (·.counts counter) < 2 ^ 64) :
    (s.cache.stats.count counter).toNat = log.countP (·.counts counter) := by
  have heven : s.ahead counter = s.behind counter := by
    simp [ahead, behind, idle]
  rw [run.count_eq new heven, UInt64.toNat_ofNat_of_lt' hlt]

theorem Run.blockReads (run : Run moves start log s) (fresh : start.Fresh) :
    (log.flatMap (·.deed.accesses)).countP Access.isRead = log.countP (·.check?.isSome) := by
  induction run with
  | nil => rfl
  | snoc run step ih =>
    have hstep := (step.effect (run.reporting fresh)).blockReads
    rw [List.flatMap_append, List.countP_append, ih, List.flatMap_singleton, hstep, countP_concat]

/-- Every tracker that was adopted has been lost, given up or replaced, or is still there. -/
theorem Run.trackers (run : Run moves start log s) (fresh : start.Fresh) :
    log.countP (·.deed.adopted?.isSome) =
      log.countP (·.findsFault) + log.countP (·.clearsTracker) + log.countP (·.replacesTracker) +
        s.cache.isTracking.toNat := by
  induction run with
  | nil => simp [Cache.isTracking, fresh.store]
  | snoc run step ih =>
    have hstep := (step.effect (run.reporting fresh)).trackers
    simp only [Cache.isTracking, countP_concat] at ih ⊢
    omega

/-- The statistics of a cache account for the traffic in the log of a run. -/
structure Accounts (log : List (Moment σ)) (s : Overlap σ) : Prop where
  /-- Every read for the owner is a hit or a miss. -/
  reads : s.cache.stats.hits.toNat + s.cache.stats.misses.toNat = log.countP (·.ownRead)
  hits : s.cache.stats.hits.toNat = log.countP fun m ↦ m.ownRead && m.deed.succeedsAtOnce
  gets : s.cache.stats.fastPathCalls.toNat = log.countP (·.deed.answers .get)
  queries : s.cache.stats.fallbackQueries.toNat = log.countP (·.deed.answers .query)
  lists : s.cache.stats.listCalls.toNat = log.countP (·.deed.answers .list)
  /-- Failures of calls of all five kinds are counted. -/
  failures : s.cache.stats.remoteErrors.toNat = log.countP (·.deed.fails)
  /-- The block is read once in each check of a tracker, and for nothing else. -/
  blockReads :
    (log.flatMap (·.deed.accesses)).countP Access.isRead = log.countP (·.check?.isSome)
  changes : s.cache.stats.invalidations.toNat = log.countP (·.findsChange)
  faults : s.cache.stats.trackerErrors.toNat = log.countP (·.findsFault)
  /-- Every tracker that was adopted has been lost, given up or replaced, or is still there. -/
  trackers : s.cache.stats.trackersInstalled.toNat =
    s.cache.stats.trackerErrors.toNat + log.countP (·.clearsTracker) +
      log.countP (·.replacesTracker) + s.cache.isTracking.toNat

/-- Whatever the provider does and however operations overlap, the statistics of a cache account for
the traffic whenever no operation is on its way, as long as no counter has overflowed. -/
theorem Run.accounts (run : Run moves start log s) (new : start.New) (idle : s.outstanding = [])
    (hlt : ∀ counter, log.countP (·.counts counter) < 2 ^ 64) : Accounts log s := by
  have hcount (counter : Counter) := run.count_stats new idle (hlt counter)
  have hreads : log.countP (·.ownRead) =
      log.countP (·.counts .hit) + log.countP (·.counts .miss) := by
    rw [List.countP_eq_countP_filter_add log Moment.ownRead (·.deed.succeedsAtOnce),
      List.countP_filter, List.countP_filter]
    rfl
  refine
    { reads := by rw [hreads, ← hcount .hit, ← hcount .miss]; rfl
      hits := hcount .hit
      gets := hcount .fastPathCall
      queries := hcount .fallbackQuery
      lists := hcount .listCall
      failures := hcount .remoteError
      blockReads := run.blockReads new.toFresh
      changes := hcount .invalidation
      faults := hcount .trackerError
      trackers := ?_ }
  have hfaults : s.cache.stats.trackerErrors.toNat = log.countP (·.findsFault) :=
    hcount .trackerError
  rw [hfaults, ← run.trackers new.toFresh]
  exact hcount .trackerInstalled

/-- Two lookups at once that are both handed a tracker, a hit, a write, a lookup that finds the
change, and a clearing. -/
def mixedTraffic : List Act :=
  [.begin (.lookup "wifi_on" .primary), .begin (.lookup "adb_enabled" .primary), .answer 0,
    .answer 1, .resume 0, .resume 0, .begin (.lookup "adb_enabled" .primary),
    .begin (.put ⟨"wifi_on", some "0", .primary, none, false⟩), .answer 0, .resume 0,
    .begin (.lookup "adb_enabled" .primary), .answer 0, .resume 0, .clear]

theorem accounts_mixedTraffic :
    Accounts (seeded.play [] mixedTraffic).1 (seeded.play [] mixedTraffic).2 := by
  have run : Run (fun _ _ ↦ False) seeded _ _ := Run.nil.play mixedTraffic
  refine run.accounts ⟨fresh_seeded, rfl⟩ rfl fun counter ↦ ?_
  have hlength : (seeded.play [] mixedTraffic).1.length = 14 := rfl
  exact Nat.lt_of_le_of_lt (List.countP_le_length) (by omega)

end Overlap

end SettingsCache
