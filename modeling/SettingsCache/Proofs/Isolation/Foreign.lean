import SettingsCache.Proofs.Accounting.Turn
import SettingsCache.Proofs.Healing.AtHand
import SettingsCache.Proofs.Routes
import SettingsCache.Proofs.SwitchedOff

/-!
# Reads for other users

A read for another user than the cache's own passes the store by. Each of its turns leaves the store
and what is counted of it as they were, and does nothing to the block but give back a handle that
came with a reply. Its calls name the user and ask for no hand-over, and what it answers is what one
of them came to. `Overlap.Run.traceless` says this of every run, from every state of the cache, and
whatever the provider hands over.
-/

namespace SettingsCache

/-- The events that concern what a cache itself holds. -/
def Counter.isLocal : Counter → Bool
  | .hit | .miss | .invalidation | .trackerError | .trackerInstalled => true
  | .fastPathCall | .fallbackQuery | .listCall | .remoteError => false

/-! ## What leaves no trace -/

/-- A cache holds what it held before, and has counted nothing that concerns it. -/
structure Cache.Untouched (before after : Cache) : Prop where
  identity : after.identity = before.identity
  store : after.store = before.store
  counters : ∀ counter : Counter, counter.isLocal = true →
    after.stats.count counter = before.stats.count counter

namespace Cache.Untouched

variable {a b c : Cache}

theorem refl (c : Cache) : c.Untouched c := ⟨rfl, rfl, fun _ _ ↦ rfl⟩

theorem trans (h : a.Untouched b) (h' : b.Untouched c) : a.Untouched c where
  identity := h'.identity.trans h.identity
  store := h'.store.trans h.store
  counters counter hlocal := (h'.counters counter hlocal).trans (h.counters counter hlocal)

/-- An event of the traffic concerns nothing that the cache holds. -/
theorem record (c : Cache) (recorded : Counter) (h : recorded.isLocal = false) :
    c.Untouched (c.record recorded) where
  identity := rfl
  store := rfl
  counters counter hlocal := by
    have hne : counter ≠ recorded := by
      rintro rfl
      exact absurd (hlocal.symm.trans h) Bool.noConfusion
    exact (Stats.count_record c.stats recorded counter).trans (if_neg hne)

end Cache.Untouched

/-- What a read for another user remembers while a call of it is answered. -/
def Fetch.foreign (user : UserId) : Fetch := ⟨some user, false, none⟩

/-- The calls by which a read names its user. They ask for no hand-over, and the read remembers
nothing of the store. -/
inductive Named : {kind : Kind} → Operation kind → {verb : Verb} → Call verb → Pending verb kind →
    Prop
  | get {name : String} {user : UserId} :
      Named (.lookup name user) (.get ⟨name, some user, false⟩) (.get name (.foreign user))
  | query {name : String} {user : UserId} :
      Named (.lookup name user) (.query name (some user)) (.query name (.foreign user))
  | list {stem : String} {user : UserId} :
      Named (.list stem user) (.list ⟨stem, some user, false⟩) (.list stem (.foreign user))

/-- The answers of a read by what a call came to that named its user. They tell what the call found,
and go with no generation. -/
inductive Conveys : {kind : Kind} → Operation kind → {verb : Verb} → Call verb → verb.Outcome →
    kind.Answer → Prop
  | got {name : String} {user : UserId} {reply : GetReply} :
      Conveys (.lookup name user) (.get ⟨name, some user, false⟩) (.ok (some reply))
        (.ok ⟨reply.value, .fastPath, none⟩)
  | found {name : String} {user : UserId} {row : Option Row} :
      Conveys (.lookup name user) (.query name (some user)) (.ok row)
        (.ok ⟨(row.filter fun row ↦ row.name == name).bind Row.value, .fallback, none⟩)
  | listed {stem : String} {user : UserId} {reply : ListReply} :
      Conveys (.list stem user) (.list ⟨stem, some user, false⟩) (.ok reply) (.ok reply.values)

/-- A turn of an operation that passes the store by: it gives back the handle that it was given, if
it was given one, and otherwise makes at most a call that names the user. -/
structure Passing {kind : Kind} (c : Cache) (operation : Operation kind)
    (given : Option HandOver) (turn : Turn (Progress kind)) : Prop where
  untouched : c.Untouched turn.cache
  accesses : turn.accesses = (HandOver.handles given).map .close
  named : ∀ {verb : Verb} (call : Call verb) (pending : Pending verb kind),
    turn.result = .calling call pending → Named operation call pending

/-! ## Turns -/

namespace Cache

variable {kind : Kind} {operation : Operation kind}

/-- What went before a turn and left no trace may be counted with it. -/
theorem Untouched.passing {b c : Cache} {given : Option HandOver} {turn : Turn (Progress kind)}
    (h : b.Untouched c) (hpassing : Passing c operation given turn) :
    Passing b operation given turn :=
  ⟨h.trans hpassing.untouched, hpassing.accesses, hpassing.named⟩

/-- A turn that leaves no trace, gives back the handle that it was given and ends its operation
passes the store by. -/
theorem Untouched.passing_done {c after : Cache} (h : c.Untouched after)
    (given : Option HandOver) (answer : kind.Answer) :
    Passing c operation given ⟨after, (HandOver.handles given).map .close, .done answer⟩ :=
  ⟨h, rfl, fun _ _ hcalling ↦ nomatch hcalling⟩

theorem passing_fallBack (c : Cache) (name : String) (user : UserId) (e : RemoteError) :
    Passing c (.lookup name user) none (c.fallBack (.foreign user) name e) := by
  unfold fallBack
  split
  · refine ⟨.record c _ rfl, rfl, fun call pending hcalling ↦ ?_⟩
    cases hcalling
    exact .query
  · exact (Untouched.refl c).passing_done none _

theorem passing_goOutForLookup (c : Cache) (name : String) (user : UserId) :
    Passing c (.lookup name user) none (c.goOutForLookup (.foreign user) name) := by
  unfold goOutForLookup
  split
  · refine ⟨.record c _ rfl, rfl, fun call pending hcalling ↦ ?_⟩
    cases hcalling
    exact .get
  · exact passing_fallBack ..

theorem passing_goOutForListing (c : Cache) (stem : String) (user : UserId) :
    Passing c (.list stem user) none (c.goOutForListing (.foreign user) stem) := by
  unfold goOutForListing
  split
  · refine ⟨.record c _ rfl, rfl, fun call pending hcalling ↦ ?_⟩
    cases hcalling
    exact .list
  · exact (Untouched.refl c).passing_done none _

/-- A read for another user begins without a look at the block. -/
theorem beginRead_foreign (c : Cache) (view : BlockView) {user : UserId} (h : user ≠ c.owner) :
    c.beginRead view user = ⟨c, [], .foreign user⟩ := by
  have hcaches : c.caches user = false := by
    rw [← Bool.not_eq_true]
    exact fun hcaches ↦ h (eq_owner_of_caches hcaches)
  rw [beginRead_of_not_caches view hcaches, Scope.resolve, if_neg h]
  rfl

theorem start_lookup_foreign (c : Cache) (view : BlockView) (name : String) {user : UserId}
    (h : user ≠ c.owner) :
    c.start view (.lookup name user) = c.goOutForLookup (.foreign user) name := by
  simp only [start, beginRead_foreign c view h]
  rfl

theorem start_list_foreign (c : Cache) (view : BlockView) (stem : String) {user : UserId}
    (h : user ≠ c.owner) :
    c.start view (.list stem user) = c.goOutForListing (.foreign user) stem := by
  simp only [start, beginRead_foreign c view h]
  rfl

/-- The first turn of a read for another user passes the store by, and does not bring the read to a
good end. -/
theorem passing_start (c : Cache) (view : BlockView) {user : UserId}
    (hreader : operation.reader? = some user) (h : user ≠ c.owner) :
    Passing c operation none (c.start view operation) ∧
      (c.start view operation).result.succeeded = false := by
  cases operation with
  | lookup name reader =>
    obtain rfl : reader = user := Option.some.inj hreader
    rw [start_lookup_foreign c view name h]
    exact ⟨passing_goOutForLookup .., (countsCall_goOutForLookup ..).unanswered⟩
  | list stem reader =>
    obtain rfl : reader = user := Option.some.inj hreader
    rw [start_list_foreign c view stem h]
    exact ⟨passing_goOutForListing .., (countsCall_goOutForListing ..).unanswered⟩
  | put | reset => cases hreader

/-- A later turn of a read that named its user passes the store by. -/
theorem passing_resume (c : Cache) {verb : Verb} {call : Call verb} {pending : Pending verb kind}
    (h : Named operation call pending) (outcome : verb.Outcome) :
    Passing c operation (verb.handOver? outcome) (c.resume pending outcome) := by
  have hfailed := Untouched.record c .remoteError rfl
  cases h with
  | @get name user =>
    rcases outcome with e | _ | reply
    · exact hfailed.passing (passing_fallBack ..)
    · exact passing_fallBack ..
    · have hturn : c.resume (.get name (.foreign user)) (.ok (some reply)) =
          ⟨c, (HandOver.handles reply.handOver).map .close,
            .done (.ok ⟨reply.value, .fastPath, none⟩)⟩ := by
        simp [resume, completeLookup, complete_of_not_caching, Fetch.foreign, Turn.bind,
          HandOver.handles]
      rw [hturn]
      exact (Untouched.refl c).passing_done _ _
  | @query name user =>
    rcases outcome with e | row
    · exact hfailed.passing_done none _
    · exact (Untouched.refl c).passing_done none _
  | @list stem user =>
    rcases outcome with e | reply
    · exact hfailed.passing_done none _
    · have hturn : c.resume (.list stem (.foreign user)) (.ok reply) =
          ⟨c, (HandOver.handles reply.handOver).map .close, .done (.ok reply.values)⟩ := by
        simp [resume, completeListing, complete_of_not_caching, Fetch.foreign, Turn.bind,
          HandOver.handles]
      rw [hturn]
      exact (Untouched.refl c).passing_done _ _

/-- A read that named its user answers well only by what its call came to. -/
theorem conveys_resume (c : Cache) {verb : Verb} {call : Call verb} {pending : Pending verb kind}
    (h : Named operation call pending) {outcome : verb.Outcome} {answer : kind.Answer}
    (hdone : (c.resume pending outcome).result = .done answer)
    (hgood : (Progress.done answer).succeeded = true) : Conveys operation call outcome answer := by
  cases h with
  | @get name user =>
    rcases outcome with e | _ | reply
    · have hbad := (countsCall_fallBack (c.record .remoteError) (.foreign user) name e).unanswered
      exact absurd (hgood.symm.trans ((congrArg _ hdone.symm).trans hbad)) Bool.noConfusion
    · have hbad := (countsCall_fallBack c (.foreign user) name
        (.communication (c.ns.method .get) "empty reply")).unanswered
      exact absurd (hgood.symm.trans ((congrArg _ hdone.symm).trans hbad)) Bool.noConfusion
    · cases hdone
      exact .got
  | query =>
    rcases outcome with e | row
    · cases hdone
      cases hgood
    · cases hdone
      exact .found
  | list =>
    rcases outcome with e | reply
    · cases hdone
      cases hgood
    · cases hdone
      exact .listed

end Cache

/-! ## Runs -/

variable {σ : Type} [Provider σ]

/-- A call that is out is one that names the user, if it is of a read for another user than the
owner, and what it came to is what the provider has answered since. -/
structure Outstanding.Abroad (owner : UserId) (log : List (Moment σ)) (o : Outstanding) : Prop where
  named : ∀ user, o.operation.reader? = some user → user ≠ owner →
    Named o.operation o.call o.pending
  noted : NotedBetween log o.since log.length o.call o.noted
  answered : ∀ outcome, o.outcome = some outcome →
    Overlap.AnsweredSince log o.since o.call outcome

theorem Outstanding.Abroad.snoc {owner : UserId} {log : List (Moment σ)} {o : Outstanding}
    (h : o.Abroad owner log) (m : Moment σ) : o.Abroad owner (log ++ [m]) :=
  ⟨h.named, h.noted.snoc m, fun outcome houtcome ↦ (h.answered outcome houtcome).append [m]⟩

namespace Overlap

variable {moves : σ → σ → Prop} {start s s' : Overlap σ} {log : List (Moment σ)} {deed : Deed}

/-- Calls that have just been made are abroad if those of reads for other users name them. -/
theorem abroad_of_outstanding {owner : UserId} {kind : Kind} {operation : Operation kind}
    {since : Nat} {progress : Progress kind}
    (h : ∀ user, operation.reader? = some user → user ≠ owner →
      ∀ {verb : Verb} (call : Call verb) (pending : Pending verb kind),
        progress = .calling call pending → Named operation call pending) :
    ∀ o ∈ progress.outstanding operation since, o.Abroad owner log := by
  intro o ho
  obtain ⟨verb, call, pending, rfl, rfl⟩ := Progress.eq_of_mem_outstanding ho
  exact ⟨fun user hreader hne ↦ h user hreader hne call pending rfl, nofun, nofun⟩

/-- A step leaves every call that is out abroad. -/
theorem Step.abroad (step : Step moves log.length s deed s') (hdistinct : Distinct log.length s)
    (h : ∀ o ∈ s.outstanding, o.Abroad s.cache.owner log) :
    ∀ o ∈ s'.outstanding, o.Abroad s.cache.owner (log ++ [⟨s, deed⟩]) := by
  refine step.forall_outstanding (fun o ho ↦ (h o ho).snoc ⟨s, deed⟩) ?_ ?_ ?_ ?_
  · intro o ho _ hout generation hnotes
    have hpast : o.since < log.length := hdistinct.past _ (since_mem_sinces ho)
    refine ⟨(h o ho).named, .of_notes (Nat.le_of_lt hpast) hnotes, fun found hfound ↦ ?_⟩
    cases hout.symm.trans hfound
  · intro o ho _ outcome hanswers
    have hpast : o.since < log.length := hdistinct.past _ (since_mem_sinces ho)
    refine ⟨(h o ho).named, (h o ho).noted.snoc _, fun found hfound ↦ ?_⟩
    obtain rfl : outcome = found := Option.some.inj hfound
    exact .of_answers hpast (h o ho).noted hanswers
  · intro kind operation turn hturn _
    refine abroad_of_outstanding fun user hreader hne ↦ ?_
    rw [hturn]
    exact (Cache.passing_start s.cache _ hreader hne).1.named
  · intro o ho outcome _
    exact abroad_of_outstanding fun user hreader hne ↦
      (Cache.passing_resume s.cache ((h o ho).named user hreader hne) _).named

/-- Every call that is out is abroad at every moment of a run. -/
theorem Run.abroad (run : Run moves start log s) (hidle : start.outstanding = []) :
    ∀ o ∈ s.outstanding, o.Abroad start.cache.owner log := by
  induction run with
  | nil =>
    intro o ho
    rw [hidle] at ho
    exact absurd ho List.not_mem_nil
  | snoc run step ih =>
    have howner := Cache.owner_of_identity run.identity_eq
    rw [← howner] at ih ⊢
    exact step.abroad (run.distinct hidle) ih

/-- An operation that began at a moment has left no trace in the cache: its first turn did nothing
to the block and did not answer well, its later turns gave back the handles that came with replies
and did nothing else, none of them changed what the cache holds or counts of it, and what the
operation answered well is what the provider has answered to a call that named the user. -/
structure Traceless (log : List (Moment σ)) {kind : Kind} (operation : Operation kind)
    (since : Nat) : Prop where
  first {m : Moment σ} {view : BlockView} {turn : Turn (Progress kind)}
    (hm : log[since]? = some m) (hdeed : m.deed = .began operation view turn) :
    Passing m.before.cache operation none turn ∧ turn.result.succeeded = false
  later {n : Nat} {m : Moment σ} {verb : Verb} {pending : Pending verb kind}
    {outcome : verb.Outcome} {turn : Turn (Progress kind)} (hm : log[n]? = some m)
    (hdeed : m.deed = .resumed operation since pending outcome turn) :
    Passing m.before.cache operation (verb.handOver? outcome) turn
  answer {answer : kind.Answer} (hended : Ended log operation since answer)
    (hgood : (Progress.done answer).succeeded = true) :
    ∃ (verb : Verb) (call : Call verb) (outcome : verb.Outcome),
      AnsweredSince log since call outcome ∧ Conveys operation call outcome answer

/-- A read for another user leaves no trace in any run that began with no operation on its way. -/
theorem Run.traceless_of_foreign (run : Run moves start log s) (hidle : start.outstanding = [])
    {kind : Kind} {operation : Operation kind} {user : UserId}
    (hreader : operation.reader? = some user) (hforeign : user ≠ start.cache.owner) (since : Nat) :
    Traceless log operation since := by
  have hfirst {n : Nat} {m : Moment σ} {view : BlockView} {turn : Turn (Progress kind)}
      (hm : log[n]? = some m) (hdeed : m.deed = .began operation view turn) :
      Passing m.before.cache operation none turn ∧ turn.result.succeeded = false := by
    obtain ⟨run', s', step⟩ := run.at hm
    rw [hdeed] at step
    have hne : user ≠ m.before.cache.owner := by
      rwa [Cache.owner_of_identity run'.identity_eq]
    cases step with
    | begin _ hturn =>
      rw [hturn]
      exact Cache.passing_start _ _ hreader hne
  -- A later turn belongs to a call that was out, and such a call names the user.
  have hlater {n : Nat} {m : Moment σ} {verb : Verb} {pending : Pending verb kind}
      {outcome : verb.Outcome} {turn : Turn (Progress kind)} (hm : log[n]? = some m)
      (hdeed : m.deed = .resumed operation since pending outcome turn) :
      turn = m.before.cache.resume pending outcome ∧ ∃ call : Call verb,
        Named operation call pending ∧ AnsweredSince log since call outcome := by
    obtain ⟨run', s', step⟩ := run.at hm
    rw [hdeed] at step
    cases step with
    | resume hout hturn =>
      have habroad := run'.abroad hidle _ (mem_of_eq_append_cons hout)
      refine ⟨hturn, _, habroad.named user hreader hforeign, ?_⟩
      rw [← List.take_append_drop n log]
      exact (habroad.answered outcome rfl).append _
  refine ⟨hfirst, fun hm hdeed ↦ ?_, ?_⟩
  · obtain ⟨rfl, call, hnamed, -⟩ := hlater hm hdeed
    exact Cache.passing_resume _ hnamed _
  · rintro answer ⟨n, ⟨before, deed⟩, hm, hends⟩ hgood
    cases hends with
    | atOnce hresult =>
      have hbad := (hfirst hm rfl).2
      rw [hresult, hgood] at hbad
      cases hbad
    | afterCall hresult =>
      obtain ⟨hturn, call, hnamed, hanswered⟩ := hlater hm rfl
      rw [hturn] at hresult
      exact ⟨_, call, _, hanswered, Cache.conveys_resume _ hnamed hresult hgood⟩

end Overlap

/-- A read for another user that is carried out by itself leaves the cache as it was. -/
theorem Cache.untouched_perform (c : Cache) (provider : σ) {kind : Kind}
    {operation : Operation kind} {user : UserId} (hreader : operation.reader? = some user)
    (h : user ≠ c.owner) : c.Untouched (c.perform provider operation).state := by
  obtain ⟨hfirst, -⟩ := c.passing_start (Provider.view provider) hreader h
  -- The turns so far, taken for one that has done nothing to the block, pass the store by.
  have hperformed : Passing c operation none
      ⟨(c.perform provider operation).state, [], .done (c.perform provider operation).answer⟩ := by
    refine carryOn_invariant
      (P := fun c' _ progress ↦ Passing c operation none ⟨c', [], progress⟩) ?_ ?_
    · intro c' provider' verb call pending hway
      have hpassing :=
        c'.passing_resume (hway.named call pending rfl) (Provider.serve provider' c'.ns call).1
      exact ⟨hway.untouched.trans hpassing.untouched, rfl, hpassing.named⟩
    · exact ⟨hfirst.untouched, rfl, hfirst.named⟩
  exact hperformed.untouched

namespace Overlap

variable {moves : σ → σ → Prop} {start s : Overlap σ} {log : List (Moment σ)}

/-- Reads for other users leave no trace in the cache, whatever it holds, whatever the provider
answers or hands over, and however operations overlap; and one that is carried out by itself leaves
the cache as it was, but for the count of its calls and of their failures. -/
theorem Run.traceless (run : Run moves start log s) (hidle : start.outstanding = []) {kind : Kind}
    {operation : Operation kind} {user : UserId} (hreader : operation.reader? = some user)
    (hforeign : user ≠ start.cache.owner) :
    (∀ since, Traceless log operation since) ∧
      s.cache.Untouched (s.cache.perform s.provider operation).state := by
  refine ⟨run.traceless_of_foreign hidle hreader hforeign, ?_⟩
  rw [← Cache.owner_of_identity run.identity_eq] at hforeign
  exact s.cache.untouched_perform s.provider hreader hforeign

/-- The owner's lookup is handed a tracker. A lookup for another user, which begins then, is handed
another unasked, while the owner's next read goes on. -/
def besides (name : String) (user : UserId) : List Act :=
  [.begin (.lookup name .primary), .answer 0, .resume 0, .begin (.lookup name user), .answer 0,
    .begin (.lookup name .primary), .resume 0]

theorem traceless_besides :
    let played := (freshOver (Forthcoming.mk Service.seeded) {}).play [] (besides "wifi_on" ⟨10⟩)
    (∀ since, Traceless played.1 (.lookup "wifi_on" ⟨10⟩) since) ∧
      Ended played.1 (.lookup "wifi_on" ⟨10⟩) 3 (.ok ⟨none, .fastPath, none⟩) ∧
      played.1.map (·.deed.accesses) =
        [[], [], [], [], [], [.read 1 2], [.close 2]] := by
  intro played
  have run : Run (fun _ _ ↦ False) (freshOver (Forthcoming.mk Service.seeded) {}) played.1
    played.2 := Run.nil.play (besides "wifi_on" ⟨10⟩)
  exact ⟨(run.traceless rfl rfl (by decide)).1, ⟨6, _, rfl, .afterCall rfl⟩, rfl⟩

end Overlap

end SettingsCache
