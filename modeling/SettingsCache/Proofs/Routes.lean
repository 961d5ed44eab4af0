import SettingsCache.Client.Basic
import SettingsCache.Proofs.Overlap.Dealings
import SettingsCache.Proofs.Overlap.Schedule
import SettingsCache.Proofs.Session.Answers

/-!
# The routes of lookups

A lookup that the store does not answer makes a fast read if there are any, and a query if there are
any and the fast read was skipped or fell short. What these came to is its `Route`, which says what
the lookup answers. `Overlap.Run.routed` says this of every lookup of every run, whatever happens
in between, and that a read that fails keeps nothing.
-/

namespace SettingsCache

/-! ## Routes -/

/-- What a lookup has heard of its calls. -/
structure Route where
  /-- What the fast read came to. -/
  got : Option (Verb.Outcome .get) := none
  /-- What the query came to. -/
  found : Option (Verb.Outcome .query) := none

namespace Route

/-- A fast read has failed, or brought no reply. -/
def fellShort : Verb.Outcome .get → Bool
  | .ok (some _) => false
  | .ok none | .error _ => true

variable (config : Config) (request : GetRequest) (route : Route)

/-- A query is due: there are queries, and the fast read was skipped or fell short. -/
def queries : Bool := config.fallback && (!config.fastPath || route.got.any fellShort)

/-- What is dealt for the fast read. -/
def fastDealings : List Dealing :=
  if config.fastPath then .made (.get request) :: route.got.toList.map (@Dealing.heard .get)
  else []

/-- What is dealt on the route: the fast read, and then the query. -/
def dealings : List Dealing :=
  route.fastDealings config request ++
    if route.queries config then
      .made (.query request.name request.user) :: route.found.toList.map (@Dealing.heard .query)
    else []

/-- All calls that are due have been heard of. -/
structure Finished : Prop where
  got : config.fastPath = true → route.got.isSome
  found : route.queries config = true → route.found.isSome

/-- What is answered in the end: what the reply says, else what a row of the very name says, else
why there is no answer. -/
def answer (ns : Namespace) (name : String) : Except RemoteError (Option String × Source) :=
  match route.got, route.found with
  | some (.ok (some reply)), _ => .ok (reply.value, .fastPath)
  | _, some (.ok row) => .ok ((row.filter fun row ↦ row.name == name).bind Row.value, .fallback)
  | _, some (.error e) => .error e
  | some (.error e), none => .error e
  | some (.ok none), none => .error (.communication (ns.method .get) "empty reply")
  | none, none => .error (.unsupported (ns.method .get))

variable {config route}

/-- With a configuration that is valid, a call is made. -/
theorem Finished.heard (h : route.Finished config) (hvalid : config.validate = .ok ()) :
    route.got.isSome ∨ route.found.isSome := by
  unfold Config.validate at hvalid
  by_cases hfast : config.fastPath = true
  · exact .inl (h.got hfast)
  · by_cases hfallback : config.fallback = true
    · exact .inr (h.found (by simp [queries, hfast, hfallback]))
    · simp [hfast, hfallback] at hvalid

/-- After a fast read was made and before it is heard of, no query is due. -/
theorem dealings_of_made (request : GetRequest) (hfast : config.fastPath = true) :
    ({} : Route).dealings config request = [.made (.get request)] := by
  simp [dealings, fastDealings, queries, hfast]

/-- If there are fast reads, a query is due after one that has fallen short. -/
theorem fellShort_of_queries (h : route.queries config = true) (hfast : config.fastPath = true) :
    ∃ outcome, route.got = some outcome ∧ fellShort outcome = true := by
  simpa [queries, hfast, Option.any_eq_true] using (Bool.and_eq_true_iff.mp h).2

/-- What a query comes to is answered if a fast read has fallen short. -/
theorem answer_of_found (ns : Namespace) (name : String) (found : Verb.Outcome .query)
    (hshort : ∀ outcome ∈ route.got, fellShort outcome = true) :
    ({ route with found := some found } : Route).answer ns name = found.map fun row ↦
      ((row.filter fun row : Row ↦ row.name == name).bind Row.value, .fallback) := by
  obtain ⟨got, old⟩ := route
  rcases got with _ | e | _ | reply
  case some.ok.some => exact absurd (hshort _ rfl) Bool.false_ne_true
  all_goals cases found <;> rfl

end Route

/-- What an answer tells, but for the generation. -/
def Kind.told (answer : Kind.lookup.Answer) : Except RemoteError (Option String × Source) :=
  answer.map fun reading ↦ (reading.value, reading.source)

/-! ## Turns of reads -/

/-- What goes on quietly leaves a turn as it is. -/
theorem Turn.bind_of_quiet {α β : Type} (turn : Turn α) {f : Cache → α → Turn β}
    (h : ∀ c a, (f c a).Quiet c) :
    (turn.bind f).cache.identity = turn.cache.identity ∧
      (turn.bind f).cache.store = turn.cache.store ∧ (turn.bind f).accesses = turn.accesses := by
  have hquiet := h turn.cache turn.result
  refine ⟨hquiet.identity, hquiet.store, ?_⟩
  change turn.accesses ++ _ = _
  rw [hquiet.accesses, List.append_nil]

namespace Cache

/-- The first turn of a read leaves the store and the block as the check does. -/
theorem start_read (c : Cache) (view : BlockView) {kind : Kind} {operation : Operation kind}
    {user : UserId} (h : operation.reader? = some user) :
    (c.start view operation).cache.identity = (c.beginRead view user).cache.identity ∧
      (c.start view operation).cache.store = (c.beginRead view user).cache.store ∧
      (c.start view operation).accesses = (c.beginRead view user).accesses := by
  cases operation with
  | lookup name reader =>
    obtain rfl : reader = user := Option.some.inj h
    apply Turn.bind_of_quiet
    intro b fetch
    split
    · exact ⟨rfl, rfl, rfl⟩
    · exact quiet_goOutForLookup b fetch name
  | list stem reader =>
    obtain rfl : reader = user := Option.some.inj h
    apply Turn.bind_of_quiet
    intro b fetch
    split
    · exact ⟨rfl, rfl, rfl⟩
    · exact quiet_goOutForListing b fetch stem
  | put | reset => cases h

theorem identity_start (c : Cache) (view : BlockView) {kind : Kind} (operation : Operation kind) :
    (c.start view operation).cache.identity = c.identity := by
  cases operation with
  | lookup name user => exact (c.start_read view rfl).1.trans (identity_beginRead ..)
  | list stem user => exact (c.start_read view rfl).1.trans (identity_beginRead ..)
  | put | reset => rfl

/-- A lookup that its first turn does not answer goes out after the check. -/
theorem result_start_lookup (c : Cache) (view : BlockView) (name : String) (user : UserId)
    (hasks : ∀ reading, (c.start view (.lookup name user)).result ≠ .done (.ok reading)) :
    ∃ (out : Cache) (fetch : Fetch), out.identity = c.identity ∧ fetch.For c user ∧
      (c.start view (.lookup name user)).result = (out.goOutForLookup fetch name).result := by
  dsimp only [start, Turn.bind] at hasks ⊢
  revert hasks
  cases (c.beginRead view user).cache.knownReading? (c.beginRead view user).result name with
  | some reading => exact fun hasks ↦ absurd rfl (hasks reading)
  | none =>
    intro _
    refine ⟨_, _, ?_, fetch_beginRead c view user, rfl⟩
    exact (identity_recordMiss ..).trans (identity_beginRead ..)

/-- A turn that completes a read ends it without a complaint. -/
theorem result_of_completion (c : Cache) {verb : Verb} {kind : Kind} {pending : Pending verb kind}
    {outcome : verb.Outcome} {k : Completion} (h : pending.completion? outcome = some k) :
    ∃ answer, (c.resume pending outcome).result = .done answer ∧
      kind.complaint? (kind.said answer) = none := by
  cases Pending.completes h with
  | get => exact ⟨_, rfl, rfl⟩
  | query => exact ⟨_, rfl, rfl⟩
  | list => exact ⟨_, rfl, rfl⟩

end Cache

namespace Overlap

variable {σ : Type} [Provider σ] {moves : σ → σ → Prop} {start s s' : Overlap σ}
  {log : List (Moment σ)} {deed : Deed}

/-- No run changes the namespace, the owner or the configuration, whatever the store holds. -/
theorem Run.identity_eq (run : Run moves start log s) :
    s.cache.identity = start.cache.identity := by
  induction run with
  | nil => rfl
  | snoc run step ih =>
    refine Eq.trans ?_ ih
    cases step with
    | begin operation hturn =>
      rw [hturn]
      exact Cache.identity_start ..
    | resume hout hturn =>
      rw [hturn]
      exact (Cache.identity_resume ..).1
    | note | answer | clear | move => rfl

/-! ## Lookups on their routes -/

section Following

variable (config : Config) (ns : Namespace) (request : GetRequest) (user : UserId) (since : Nat)

/-- How far a lookup has come on its route: a call of it is out, for which a generation may have
been noted and which may have been answered, or it has ended. -/
inductive Stage (log : List (Moment σ)) (s : Overlap σ) : Route → Prop
  | getting {fetch : Fetch} {noted : Option Generation} {outcome : Option (Verb.Outcome .get)}
      (hfast : config.fastPath = true) (huser : fetch.user = request.user)
      (hout : ⟨.lookup request.name user, since, .get request, .get request.name fetch, noted,
        outcome⟩ ∈ s.outstanding)
      (hnoted : NotedBetween log since log.length (.get request) noted)
      (hanswered : ∀ o ∈ outcome, AnsweredSince log since (.get request) o) : Stage log s {}
  | querying {route : Route} {fetch : Fetch} {noted : Option Generation}
      {outcome : Option (Verb.Outcome .query)} (hqueries : route.queries config = true)
      (hfound : route.found = none)
      (hout : ⟨.lookup request.name user, since, .query request.name request.user,
        .query request.name fetch, noted, outcome⟩ ∈ s.outstanding)
      (hnoted : NotedBetween log since log.length (.query request.name request.user) noted)
      (hanswered : ∀ o ∈ outcome,
        AnsweredSince log since (.query request.name request.user) o) : Stage log s route
  | ended {route : Route} {answer : Kind.lookup.Answer} (hfinished : route.Finished config)
      (hended : Ended log (.lookup request.name user) since answer)
      (hanswer : Kind.told answer = route.answer ns request.name) : Stage log s route

/-- A lookup has followed a route: what it has dealt and heard is that of the route. -/
structure Following (log : List (Moment σ)) (s : Overlap σ) (route : Route) : Prop where
  dealings : dealings log since = route.dealings config request
  got : ∀ outcome ∈ route.got,
    config.fastPath = true ∧ AnsweredSince log since (.get request) outcome
  found : ∀ outcome ∈ route.found, route.queries config = true ∧
    AnsweredSince log since (.query request.name request.user) outcome
  stage : Stage config ns request user since log s route

variable {config ns request user since} {route : Route}

/-- What a lookup does once its fast read was skipped or fell short. -/
def fallenBack (config : Config) (request : GetRequest) (fetch : Fetch) (e : RemoteError) :
    Progress .lookup :=
  if config.fallback then .calling (.query request.name request.user) (.query request.name fetch)
  else .done (.error e)

theorem result_fallBack_eq (request : GetRequest) {out : Cache} {fetch : Fetch}
    (hconfig : out.config = config) (huser : fetch.user = request.user) (e : RemoteError) :
    (out.fallBack fetch request.name e).result = fallenBack config request fetch e := by
  unfold Cache.fallBack fallenBack
  rw [hconfig, huser]
  split <;> rfl

/-- A lookup goes on by a query, or ends without one, once its fast read was skipped or fell
short. -/
theorem Following.of_fallenBack (fetch : Fetch) {e : RemoteError}
    (hfound : route.found = none) (hqueries : route.queries config = config.fallback)
    (hfast : config.fastPath = true → route.got.isSome)
    (hanswer : route.answer ns request.name = .error e)
    (hgot : ∀ outcome ∈ route.got,
      config.fastPath = true ∧ AnsweredSince log since (.get request) outcome)
    (hdealings : Overlap.dealings log since =
      route.fastDealings config request ++ (fallenBack config request fetch e).dealings)
    (hout : ∀ o ∈ (fallenBack config request fetch e).outstanding (.lookup request.name user) since,
      o ∈ s.outstanding)
    (hended : ∀ answer, fallenBack config request fetch e = .done answer →
      Ended log (.lookup request.name user) since answer) :
    Following config ns request user since log s route := by
  have hnone : ∀ outcome ∈ route.found, route.queries config = true ∧
      AnsweredSince log since (.query request.name request.user) outcome := by
    rw [hfound]
    exact fun outcome hmem ↦ nomatch hmem
  unfold fallenBack at hdealings hout hended
  by_cases hfallback : config.fallback = true
  · rw [if_pos hfallback] at hdealings hout hended
    rw [hfallback] at hqueries
    refine ⟨?_, hgot, hnone,
      .querying hqueries hfound (hout _ (List.mem_singleton.mpr rfl)) nofun ?_⟩
    · rw [hdealings, Route.dealings, if_pos hqueries, hfound]
      rfl
    · exact fun o ho ↦ nomatch ho
  · rw [if_neg hfallback] at hdealings hout hended
    have hskips : ¬ route.queries config = true := by rwa [hqueries]
    refine ⟨?_, hgot, hnone, .ended ⟨hfast, fun h ↦ absurd h hskips⟩ (hended _ rfl) hanswer.symm⟩
    rw [hdealings, Route.dealings, if_neg hskips]
    rfl

/-- A lookup stays on its route while a moment passes it by. -/
theorem Following.snoc (h : Following config ns request user since log s route) {m : Moment σ}
    (hpasses : m.deed.Passes log.length since)
    (hstage : Stage config ns request user since (log ++ [m]) s' route) :
    Following config ns request user since (log ++ [m]) s' route where
  dealings := by
    rw [dealings_snoc, hpasses.dealings_eq, List.append_nil]
    exact h.dealings
  got outcome hmem := ⟨(h.got outcome hmem).1, (h.got outcome hmem).2.append [m]⟩
  found outcome hmem := ⟨(h.found outcome hmem).1, (h.found outcome hmem).2.append [m]⟩
  stage := hstage

/-- A lookup whose fast read has fallen short goes on by a query, or ends without one. -/
theorem Following.of_short {fetch : Fetch} {outcome : Verb.Outcome .get} {e : RemoteError}
    {turn : Turn (Progress .lookup)} {m : Moment σ}
    (h : Following config ns request user since log s {}) (hfast : config.fastPath = true)
    (hanswered : AnsweredSince log since (.get request) outcome)
    (hdeed : m.deed = .resumed (.lookup request.name user) since (.get request.name fetch) outcome
      turn)
    (hresult : turn.result = fallenBack config request fetch e)
    (hout : ∀ o ∈ turn.result.outstanding (.lookup request.name user) since, o ∈ s'.outstanding)
    (hfell : Route.fellShort outcome = true)
    (hanswer : ({ got := some outcome } : Route).answer ns request.name = .error e) :
    Following config ns request user since (log ++ [m]) s' { got := some outcome } := by
  rw [hresult] at hout
  refine .of_fallenBack fetch rfl ?_ (fun _ ↦ rfl) hanswer ?_ ?_ hout ?_
  · simp [Route.queries, hfell]
  · intro o ho
    obtain rfl := Option.some.inj ho
    exact ⟨hfast, hanswered.append [m]⟩
  · rw [dealings_resumed hdeed, h.dealings, Route.dealings_of_made request hfast, hresult]
    simp [Route.fastDealings, hfast]
  · exact fun answer hdone ↦ .of_resumed hdeed (hresult.trans hdone)

/-- A lookup that has made a fast read goes on with what it came to. -/
theorem Following.of_got {fetch : Fetch} {outcome : Verb.Outcome .get}
    {turn : Turn (Progress .lookup)} {m : Moment σ}
    (h : Following config ns request user since log s {}) (hfast : config.fastPath = true)
    (huser : fetch.user = request.user)
    (hanswered : AnsweredSince log since (.get request) outcome)
    (hdeed : m.deed = .resumed (.lookup request.name user) since (.get request.name fetch) outcome
      turn)
    (hconfig : s.cache.config = config) (hns : s.cache.ns = ns)
    (hturn : turn = s.cache.resume (.get request.name fetch) outcome)
    (hout : ∀ o ∈ turn.result.outstanding (.lookup request.name user) since, o ∈ s'.outstanding) :
    Following config ns request user since (log ++ [m]) s' { got := some outcome } := by
  rcases outcome with e | _ | reply
  · have hrecorded : (s.cache.record .remoteError).config = config := hconfig
    have hresult := result_fallBack_eq request hrecorded huser e
    exact h.of_short hfast hanswered hdeed (hturn ▸ hresult) hout rfl rfl
  · have hresult := result_fallBack_eq request hconfig huser
      (.communication (s.cache.ns.method .get) "empty reply")
    rw [hns] at hresult
    refine h.of_short hfast hanswered hdeed ?_ hout rfl rfl
    rw [hturn, ← hresult, ← hns]
    rfl
  · have hskips : ¬ ({ got := some (.ok (some reply)) } : Route).queries config = true := by
      simp [Route.queries, Route.fellShort, hfast]
    obtain ⟨g, hdone⟩ : ∃ g, turn.result = .done (.ok ⟨reply.value, .fastPath, g⟩) := by
      rw [hturn]
      exact ⟨_, rfl⟩
    refine ⟨?_, ?_, fun o ho ↦ (nomatch ho), .ended ?_ (.of_resumed hdeed hdone) rfl⟩
    · rw [dealings_resumed hdeed, h.dealings, Route.dealings_of_made request hfast, hdone,
        Route.dealings, if_neg hskips]
      simp [Route.fastDealings, hfast, Progress.dealings]
    · intro o ho
      obtain rfl := Option.some.inj ho
      exact ⟨hfast, hanswered.append [m]⟩
    · exact ⟨fun _ ↦ rfl, fun h ↦ absurd h hskips⟩

/-- A lookup that has made a query ends with what it came to. -/
theorem Following.of_found {fetch : Fetch} {outcome : Verb.Outcome .query}
    {turn : Turn (Progress .lookup)} {m : Moment σ}
    (h : Following config ns request user since log s route)
    (hqueries : route.queries config = true) (hfound : route.found = none)
    (hanswered : AnsweredSince log since (.query request.name request.user) outcome)
    (hdeed : m.deed = .resumed (.lookup request.name user) since (.query request.name fetch) outcome
      turn)
    (hturn : turn = s.cache.resume (.query request.name fetch) outcome) :
    Following config ns request user since (log ++ [m]) s'
      { route with found := some outcome } := by
  have hstill : ({ route with found := some outcome } : Route).queries config = true := hqueries
  have hshort : ∀ got ∈ route.got, Route.fellShort got = true := by
    intro got hgot
    obtain ⟨_, hsome, hfell⟩ := Route.fellShort_of_queries hqueries (h.got got hgot).1
    rwa [Option.some.inj (hgot.symm.trans hsome)]
  obtain ⟨answer, hdone, hanswer⟩ : ∃ answer, turn.result = .done answer ∧ Kind.told answer =
      ({ route with found := some outcome } : Route).answer ns request.name := by
    rw [hturn, Route.answer_of_found ns request.name outcome hshort]
    cases outcome with
    | error e => exact ⟨_, rfl, rfl⟩
    | ok row => exact ⟨_, rfl, rfl⟩
  refine ⟨?_, ?_, ?_, .ended ⟨?_, fun _ ↦ rfl⟩ (.of_resumed hdeed hdone) hanswer⟩
  · rw [dealings_resumed hdeed, h.dealings, Route.dealings, if_pos hqueries, hfound,
      Route.dealings, if_pos hstill, hdone]
    simp [Route.fastDealings, Progress.dealings]
  · exact fun got hgot ↦ ⟨(h.got got hgot).1, (h.got got hgot).2.append [m]⟩
  · intro o ho
    obtain rfl := Option.some.inj ho
    exact ⟨hqueries, hanswered.append [m]⟩
  · intro hfast
    obtain ⟨_, hsome, -⟩ := Route.fellShort_of_queries hqueries hfast
    exact Option.isSome_of_eq_some hsome

/-- A lookup goes on to follow its route. -/
theorem Following.step
    (h : Following start.cache.config start.cache.ns request user since log s route)
    (hlt : since < log.length) (run : Run moves start log s) (hidle : start.outstanding = [])
    (step : Step moves log.length s deed s') :
    ∃ route', Following start.cache.config start.cache.ns request user since (log ++ [⟨s, deed⟩]) s'
      route' := by
  have hdistinct := run.distinct hidle
  have hconfig : s.cache.config = start.cache.config := Cache.config_of_identity run.identity_eq
  have hns : s.cache.ns = start.cache.ns := Cache.ns_of_identity run.identity_eq
  cases h.stage with
  | getting hfast huser hout hnoted hanswered =>
    have hlater := fun o ho ↦ (hanswered o ho).append [⟨s, deed⟩]
    cases hdistinct.fate step hout with
    | waits hout hpasses =>
      exact ⟨_, h.snoc hpasses (.getting hfast huser hout (hnoted.snoc _) hlater)⟩
    | noted hnotes hout =>
      exact ⟨_, h.snoc (passes_of_notes hnotes)
        (.getting hfast huser hout (.of_notes (Nat.le_of_lt hlt) hnotes) hlater)⟩
    | answered hanswers hout =>
      refine ⟨_, h.snoc (passes_of_answers hanswers)
        (.getting hfast huser hout (hnoted.snoc _) fun o ho ↦ ?_)⟩
      obtain rfl := Option.some.inj ho
      exact .of_answers hlt hnoted hanswers
    | resumed houtcome hdeed hturn hout =>
      exact ⟨_, h.of_got hfast huser (hanswered _ houtcome) hdeed hconfig hns hturn hout⟩
  | querying hqueries hfound hout hnoted hanswered =>
    have hlater := fun o ho ↦ (hanswered o ho).append [⟨s, deed⟩]
    cases hdistinct.fate step hout with
    | waits hout hpasses =>
      exact ⟨_, h.snoc hpasses (.querying hqueries hfound hout (hnoted.snoc _) hlater)⟩
    | noted hnotes hout =>
      exact ⟨_, h.snoc (passes_of_notes hnotes)
        (.querying hqueries hfound hout (.of_notes (Nat.le_of_lt hlt) hnotes) hlater)⟩
    | answered hanswers hout =>
      refine ⟨_, h.snoc (passes_of_answers hanswers)
        (.querying hqueries hfound hout (hnoted.snoc _) fun o ho ↦ ?_)⟩
      obtain rfl := Option.some.inj ho
      exact .of_answers hlt hnoted hanswers
    | resumed houtcome hdeed hturn hout =>
      exact ⟨_, h.of_found hqueries hfound (hanswered _ houtcome) hdeed hturn⟩
  | ended hfinished hended hanswer =>
    have hpasses := step.passes (Nat.ne_of_gt hlt) (run.over hidle hended).2
    exact ⟨_, h.snoc hpasses (.ended hfinished (hended.snoc _) hanswer)⟩

/-- A lookup that its first turn does not answer begins to follow a route. -/
theorem Run.following_began (run : Run moves start log s) (hidle : start.outstanding = [])
    {name : String} {view : BlockView} {turn : Turn (Progress .lookup)}
    (step : Step moves log.length s (.began (.lookup name user) view turn) s')
    (hasks : ∀ reading, turn.result ≠ .done (.ok reading)) :
    ∃ request : GetRequest, request.name = name ∧
      request.user = (Scope.resolve user start.cache.owner).wireUser ∧
      ∃ route, Following start.cache.config start.cache.ns request user log.length
        (log ++ [⟨s, .began (.lookup name user) view turn⟩]) s' route := by
  cases step with
  | begin _ hturn =>
    rw [hturn] at hasks
    obtain ⟨out, fetch, hidentity, hfor, hresult⟩ :=
      Cache.result_start_lookup s.cache _ name user hasks
    rw [← hturn] at hresult
    have hsame := hidentity.trans run.identity_eq
    have hconfig : out.config = start.cache.config := Cache.config_of_identity hsame
    have hns : out.ns = start.cache.ns := Cache.ns_of_identity hsame
    have huser : fetch.user = (Scope.resolve user start.cache.owner).wireUser := by
      rw [hfor.user_eq, Cache.owner_of_identity run.identity_eq]
    have hbefore := run.dealings_eq_nil hidle (Nat.le_refl log.length)
    rw [Cache.goOutForLookup, hconfig, hns] at hresult
    by_cases hfast : start.cache.config.fastPath = true
    · rw [if_pos hfast] at hresult
      let request : GetRequest := ⟨name, fetch.user, out.wantsHandOver fetch⟩
      have hout : ⟨.lookup name user, log.length, .get request, .get name fetch, none, none⟩ ∈
          s.outstanding ++ turn.result.outstanding (.lookup name user) log.length := by
        rw [hresult]
        exact List.mem_append_right _ (List.mem_singleton.mpr rfl)
      refine ⟨request, rfl, huser, {}, ?_, fun o ho ↦ (nomatch ho), fun o ho ↦ (nomatch ho),
        .getting hfast rfl hout nofun fun o ho ↦ nomatch ho⟩
      rw [dealings_snoc, hbefore, Route.dealings_of_made _ hfast]
      simp [Deed.dealings, hresult, Progress.dealings, request]
    · rw [if_neg hfast] at hresult
      let request : GetRequest := ⟨name, fetch.user, false⟩
      have hfallen := hresult.trans (result_fallBack_eq request hconfig rfl _)
      refine ⟨request, rfl, huser, {}, .of_fallenBack fetch rfl ?_ (absurd · hfast) rfl
        (fun o ho ↦ nomatch ho) ?_ ?_ ?_⟩
      · simp [Route.queries, hfast]
      · rw [dealings_snoc, hbefore, ← hfallen]
        simp [Deed.dealings, Route.fastDealings, hfast]
      · rw [← hfallen]
        exact fun o ho ↦ List.mem_append_right _ ho
      · intro answer hdone
        exact ⟨log.length, _, List.getElem?_concat_length, .atOnce (hfallen.trans hdone)⟩

/-- Every lookup that its first turn does not answer follows a route from then on. -/
theorem Run.following (run : Run moves start log s) (hidle : start.outstanding = []) {since : Nat}
    {m : Moment σ} {name : String} {user : UserId} {view : BlockView}
    {turn : Turn (Progress .lookup)} (hm : log[since]? = some m)
    (hbegan : m.deed = .began (.lookup name user) view turn)
    (hasks : ∀ reading, turn.result ≠ .done (.ok reading)) :
    ∃ request : GetRequest, request.name = name ∧
      request.user = (Scope.resolve user start.cache.owner).wireUser ∧
      ∃ route, Following start.cache.config start.cache.ns request user since log s route := by
  induction run with
  | nil => exact absurd hm (by simp)
  | @snoc log s s' deed run step ih =>
    rcases getElem?_snoc hm with hm | ⟨rfl, rfl⟩
    · obtain ⟨request, hname, huser, route, h⟩ := ih hm
      obtain ⟨hlt, -⟩ := List.getElem?_eq_some_iff.mp hm
      exact ⟨request, hname, huser, h.step hlt run hidle step⟩
    · subst hbegan
      exact run.following_began hidle step hasks

/-- A lookup that has ended has finished its route, and answers as it says. -/
theorem Following.of_ended (h : Following config ns request user since log s route)
    (run : Run moves start log s) (hidle : start.outstanding = []) {answer : Kind.lookup.Answer}
    (hended : Ended log (.lookup request.name user) since answer) :
    route.Finished config ∧ Kind.told answer = route.answer ns request.name := by
  have hnot := (run.over hidle hended).2
  cases h.stage with
  | getting _ _ hout => exact absurd (since_mem_sinces hout) hnot
  | querying _ _ hout => exact absurd (since_mem_sinces hout) hnot
  | ended hfinished hended' hanswer =>
    rw [run.ends_once hidle hended hended']
    exact ⟨hfinished, hanswer⟩

/-- A lookup that has finished its route has ended. -/
theorem Following.ended_of_finished
    (h : Following config ns request user since log s route) (hfinished : route.Finished config) :
    ∃ answer, Ended log (.lookup request.name user) since answer := by
  cases h.stage with
  | getting hfast => exact absurd (hfinished.got hfast) Bool.false_ne_true
  | querying hqueries hfound =>
    have hsome := hfinished.found hqueries
    rw [hfound] at hsome
    exact absurd hsome Bool.false_ne_true
  | ended _ hended => exact ⟨_, hended⟩

end Following

/-! ## Reads that fail -/

/-- A read has kept nothing: its first turn left the store and the block as the check did, and no
later turn has changed the store or touched the block. -/
structure KeptNothing (log : List (Moment σ)) {kind : Kind} (operation : Operation kind)
    (user : UserId) (since : Nat) : Prop where
  first {m : Moment σ} {view : BlockView} {turn : Turn (Progress kind)}
    (hm : log[since]? = some m) (hdeed : m.deed = .began operation view turn) :
    turn.cache.store = (m.before.cache.beginRead view user).cache.store ∧
      turn.accesses = (m.before.cache.beginRead view user).accesses
  later {n : Nat} {m : Moment σ} {verb : Verb} {pending : Pending verb kind}
    {outcome : verb.Outcome} {turn : Turn (Progress kind)} (hm : log[n]? = some m)
    (hdeed : m.deed = .resumed operation since pending outcome turn) :
    turn.cache.store = m.before.cache.store ∧ turn.accesses = []

/-- A read that ends with a complaint has kept nothing. -/
theorem Run.keptNothing (run : Run moves start log s) (hidle : start.outstanding = []) {kind : Kind}
    {operation : Operation kind} {user : UserId} {since : Nat} {answer : kind.Answer}
    {e : RemoteError} (hreads : operation.reader? = some user)
    (hended : Ended log operation since answer)
    (hfails : kind.complaint? (kind.said answer) = some e) :
    KeptNothing log operation user since where
  first {m view turn} hm hdeed := by
    obtain ⟨-, s', step⟩ := run.at hm
    rw [hdeed] at step
    cases step with
    | begin _ hturn =>
      rw [hturn]
      exact (m.before.cache.start_read _ hreads).2
  later {n m verb pending outcome turn} hm hdeed := by
    obtain ⟨-, s', step⟩ := run.at hm
    rw [hdeed] at step
    cases step with
    | resume hout hturn =>
      cases Cache.resumed hturn with
      | quiet _ hquiet => exact ⟨hquiet.store, hquiet.accesses⟩
      | completed hk =>
        -- Such a turn would have ended the read without a complaint.
        obtain ⟨other, hresult, hgood⟩ := m.before.cache.result_of_completion hk
        rw [← hturn] at hresult
        have hother : Ended log operation since other := by
          refine ⟨n, m, hm, ?_⟩
          rw [hdeed]
          exact .afterCall hresult
        rw [run.ends_once hidle hended hother, hgood] at hfails
        cases hfails

/-! ## What every lookup does -/

/-- A lookup is on a route. What it has dealt is what the route says, each outcome is what the
provider answered, and the lookup has ended just if all calls that are due have been heard of; it
answers what the route says. With a valid configuration a call is due. The text is missing just for
a complaint and for a setting that is unset. -/
structure Routed (config : Config) (ns : Namespace) (request : GetRequest) (user : UserId)
    (since : Nat) (log : List (Moment σ)) (route : Route) : Prop where
  dealings : dealings log since = route.dealings config request
  got : ∀ outcome ∈ route.got,
    config.fastPath = true ∧ AnsweredSince log since (.get request) outcome
  found : ∀ outcome ∈ route.found, route.queries config = true ∧
    AnsweredSince log since (.query request.name request.user) outcome
  ended_iff : (∃ answer, Ended log (.lookup request.name user) since answer) ↔
    route.Finished config
  answer : ∀ answer, Ended log (.lookup request.name user) since answer →
    Kind.told answer = route.answer ns request.name
  heard : config.validate = .ok () → route.Finished config →
    route.got.isSome ∨ route.found.isSome
  text : ∀ answer, Ended log (.lookup request.name user) since answer →
    ((Client.text ns request.name user).finish answer = none ↔
      (∃ e, route.answer ns request.name = .error e) ∨
        ∃ source, route.answer ns request.name = .ok (none, source))

/-- A text is missing just for a complaint and for a setting that is unset. -/
theorem text_eq_none_iff (ns : Namespace) (name : String) (user : UserId)
    (answer : Kind.lookup.Answer) : (Client.text ns name user).finish answer = none ↔
      (∃ e, Kind.told answer = .error e) ∨ ∃ source, Kind.told answer = .ok (none, source) := by
  cases answer with
  | error e => exact ⟨fun _ ↦ .inl ⟨e, rfl⟩, fun _ ↦ rfl⟩
  | ok reading =>
    change reading.value = none ↔ _
    simp [Kind.told, Except.map]

/-- In every run, from every state of the cache, a lookup that its first turn does not answer goes
its route: a fast read if there are any, a query if there are any and the fast read was skipped or
fell short, and nothing else, and it answers by what these came to. A read that ends with a
complaint leaves the store and the block as its check did. -/
theorem Run.routed (run : Run moves start log s) (hidle : start.outstanding = []) :
    (∀ {since : Nat} {m : Moment σ} {name : String} {user : UserId} {view : BlockView}
      {turn : Turn (Progress .lookup)}, log[since]? = some m →
      m.deed = .began (.lookup name user) view turn →
      (∀ reading, turn.result ≠ .done (.ok reading)) →
      ∃ (request : GetRequest) (route : Route), request.name = name ∧
        request.user = (Scope.resolve user start.cache.owner).wireUser ∧
        Routed start.cache.config start.cache.ns request user since log route) ∧
    ∀ {kind : Kind} {operation : Operation kind} {user : UserId} {since : Nat}
      {answer : kind.Answer} {e : RemoteError}, operation.reader? = some user →
      Ended log operation since answer → kind.complaint? (kind.said answer) = some e →
      KeptNothing log operation user since := by
  refine ⟨?_, fun hreads hended hfails ↦ run.keptNothing hidle hreads hended hfails⟩
  intro since m name user view turn hm hbegan hasks
  obtain ⟨request, hname, huser, route, h⟩ := run.following hidle hm hbegan hasks
  refine ⟨request, route, hname, huser, h.dealings, h.got, h.found, ?_, ?_, ?_, ?_⟩
  · exact ⟨fun ⟨_, hended⟩ ↦ (h.of_ended run hidle hended).1, h.ended_of_finished⟩
  · exact fun answer hended ↦ (h.of_ended run hidle hended).2
  · exact fun hvalid hfinished ↦ hfinished.heard hvalid
  · intro answer hended
    rw [← (h.of_ended run hidle hended).2]
    exact text_eq_none_iff ..

/-- A new cache over a service that gives no replies to fast reads and fails every query. -/
def unanswered : Overlap Service :=
  { seeded with provider := { Service.seeded with faults := [.emptyGetReply, .failQuery] } }

/-- A lookup makes both of its calls, while another one begins and the tracker is given up. -/
def bothCalls : List Act :=
  [.begin (.lookup "wifi_on" .primary), .answer 0, .begin (.lookup "adb_enabled" .primary),
    .resume 0, .clear, .answer 0, .resume 0]

theorem routed_bothCalls :
    ∃ log s, Run (fun _ _ ↦ False) unanswered log s ∧
      dealings log 0 = [.made (.get ⟨"wifi_on", none, true⟩), @Dealing.heard .get (.ok none),
        .made (.query "wifi_on" none),
        @Dealing.heard .query (.error (Service.injected .global .query))] ∧
      (∃ request route, Routed {} .global request .primary 0 log route ∧
        route.answer .global "wifi_on" = .error (Service.injected .global .query)) ∧
      KeptNothing log (.lookup "wifi_on" .primary) .primary 0 := by
  have run : Run (fun _ _ ↦ False) unanswered _ _ := Run.nil.play bothCalls
  have hended : Ended (unanswered.play [] bothCalls).1 (.lookup "wifi_on" .primary) 0
      (.error (Service.injected .global .query)) := ⟨6, _, rfl, .afterCall rfl⟩
  obtain ⟨hlookups, hreads⟩ := run.routed rfl
  refine ⟨_, _, run, rfl, ?_, hreads rfl hended rfl⟩
  have hbegan : (unanswered.play [] bothCalls).1[0]? = some ⟨unanswered, .began
      (.lookup "wifi_on" .primary) _ _⟩ := rfl
  obtain ⟨request, route, hname, -, hrouted⟩ := hlookups hbegan rfl fun reading h ↦ nomatch h
  rw [← hname] at hended
  refine ⟨request, route, hrouted, ?_⟩
  rw [← hname]
  exact (hrouted.answer _ hended).symm

end Overlap

end SettingsCache
