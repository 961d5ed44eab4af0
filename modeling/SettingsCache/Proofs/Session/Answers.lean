import SettingsCache.Proofs.Coherence.Honest
import SettingsCache.Proofs.Session.Perform

/-!
# What operations answer

`Service.answer` says what an operation comes to if it has to ask the service: the configuration
says in which ways it asks, and the faults that are switched on which of these fail. A cache that
does not know the answer of a read by itself gives this one.
-/

namespace SettingsCache

/-! ## What is said -/

/-- What an operation is told, wherever the answer came from. -/
abbrev Kind.Said : Kind → Type
  | .lookup => Except RemoteError (Option String)
  | .listing => Except RemoteError (NameMap String)
  | .write => Bool

/-- What an answer says. -/
def Kind.said : (kind : Kind) → kind.Answer → kind.Said
  | .lookup, answer => answer.map Reading.value
  | .listing, answer => answer
  | .write, answer => answer

/-- The complaint that is said, if it is one. -/
def Kind.complaint? : (kind : Kind) → kind.Said → Option RemoteError
  | .lookup, .error e | .listing, .error e => some e
  | .lookup, .ok _ | .listing, .ok _ => none
  | .write, _ => none

/-- The answer of an operation that is finished without a complaint. -/
def Progress.known? {kind : Kind} : Progress kind → Option kind.Answer
  | .done answer => if (kind.complaint? (kind.said answer)).isNone then some answer else none
  | .calling _ _ => none

/-- The answer that a cache gives by itself, without a call. -/
def Cache.known? (c : Cache) (view : BlockView) {kind : Kind} (operation : Operation kind) :
    Option kind.Answer :=
  (c.start view operation).result.known?

namespace Service

variable (s : Service) (config : Config) (ns : Namespace) (user : UserId)

/-- What a fast read of a setting comes to. -/
def fastRead (name : String) : Except RemoteError (Option String) :=
  if s.hasFault .getUnsupported then .error (.unsupported (ns.method .get))
  else if s.hasFault .failGet then .error (injected ns .get)
  else if s.hasFault .emptyGetReply then
    .error (.communication (ns.method .get) "empty reply")
  else .ok (s.value ns user name)

/-- What a query of a setting comes to. A row under another name says that it is unset. -/
def queried (name : String) : Except RemoteError (Option String) :=
  if s.hasFault .failQuery then .error (injected ns .query)
  else .ok (if s.hasFault .misnamedQueryRows then none else s.value ns user name)

/-- What a lookup comes to: a fast read if there are any, and a query if it has failed. -/
def lookedUp (name : String) : Except RemoteError (Option String) :=
  let fast :=
    if config.fastPath then s.fastRead ns user name else .error (.unsupported (ns.method .get))
  match fast with
  | .ok value => .ok value
  | .error e => if config.fallback then s.queried ns user name else .error e

/-- What a listing comes to. -/
def listed (stem : String) : Except RemoteError (NameMap String) :=
  if config.fastPath then
    if s.hasFault .failList then .error (injected ns .list)
    else .ok ((NameMap.withStem (s.table ns user) stem).select Entry.value)
  else .error (.unsupported (ns.method .list))

/-- What an operation comes to that has to ask. -/
def answer {kind : Kind} : Operation kind → kind.Said
  | .lookup name user => s.lookedUp config ns user name
  | .list stem user => s.listed config ns user stem
  | .put _ | .reset _ => !s.hasFault .failWrites

end Service

/-! ## What services that agree answer -/

namespace Service.AgreeOn

variable {part : Part} {s t : Service} {ns : Namespace} {user : UserId}

theorem fastRead (h : s.AgreeOn part t) (hp : part ns user) (name : String) :
    s.fastRead ns user name = t.fastRead ns user name := by
  unfold Service.fastRead
  simp only [h.hasFault, h.value hp]

theorem queried (h : s.AgreeOn part t) (hp : part ns user) (name : String) :
    s.queried ns user name = t.queried ns user name := by
  unfold Service.queried
  simp only [h.hasFault, h.value hp]

theorem lookedUp (h : s.AgreeOn part t) (config : Config) (hp : part ns user) (name : String) :
    s.lookedUp config ns user name = t.lookedUp config ns user name := by
  unfold Service.lookedUp
  rw [h.fastRead hp, h.queried hp]

theorem listed (h : s.AgreeOn part t) (config : Config) (hp : part ns user) (stem : String) :
    s.listed config ns user stem = t.listed config ns user stem := by
  unfold Service.listed
  rw [h.hasFault, h.table ns user hp]

/-- An operation comes to the same. -/
theorem answer (h : s.AgreeOn part t) (config : Config) {kind : Kind}
    (hp : ∀ user, part ns user) (operation : Operation kind) :
    s.answer config ns operation = t.answer config ns operation := by
  cases operation with
  | lookup name user => exact h.lookedUp config (hp user) name
  | list stem user => exact h.listed config (hp user) stem
  | put | reset => exact congrArg (!·) (h.hasFault .failWrites)

end Service.AgreeOn

/-! ## What single calls come to -/

namespace Service

variable (s : Service) (ns : Namespace)

theorem fastRead_eq (request : GetRequest) :
    s.fastRead ns (s.requestUser request.user) request.name =
      match (s.serve ns (.get request)).1 with
      | .error e => .error e
      | .ok none => .error (.communication (ns.method .get) "empty reply")
      | .ok (some reply) => .ok reply.value := by
  rw [serve_get]
  unfold fastRead
  dsimp only
  by_cases hunsupported : s.hasFault .getUnsupported
  · rw [if_pos hunsupported, if_pos hunsupported]
  · rw [if_neg hunsupported, if_neg hunsupported]
    by_cases hfail : s.hasFault .failGet
    · rw [if_pos hfail, if_pos hfail]
    · rw [if_neg hfail, if_neg hfail]
      by_cases hempty : s.hasFault .emptyGetReply
      · rw [if_pos hempty, if_pos hempty]
      · rw [if_neg hempty, if_neg hempty]

/-- A row under another name is not the one that was asked for. -/
theorem shadow_ne (name : String) : (name ++ "_shadow" == name) = false := by
  apply beq_eq_false_iff_ne.mpr
  intro h
  have hlength := congrArg String.length h
  rw [String.length_append] at hlength
  exact absurd (Nat.add_eq_left.mp hlength) (by decide)

theorem queried_eq (name : String) (user : Option UserId) :
    s.queried ns (s.requestUser user) name =
      match (s.serve ns (.query name user)).1 with
      | .error e => .error e
      | .ok row => .ok ((row.filter fun row : Row ↦ row.name == name).bind Row.value) := by
  rw [serve_query]
  unfold queried value
  dsimp only
  by_cases hfail : s.hasFault .failQuery
  · rw [if_pos hfail, if_pos hfail]
  · rw [if_neg hfail, if_neg hfail]
    congr 1
    by_cases hmisnamed : s.hasFault .misnamedQueryRows
    · simp only [if_pos hmisnamed]
      cases s.entry? ns (s.requestUser user) name with
      | none => rfl
      | some e => simp [Option.filter, shadow_ne]
    · simp only [if_neg hmisnamed]
      cases s.entry? ns (s.requestUser user) name with
      | none => rfl
      | some e => simp [Option.filter]

theorem listed_eq (config : Config) (request : ListRequest) (hfast : config.fastPath = true) :
    s.listed config ns (s.requestUser request.user) request.stem =
      match (s.serve ns (.list request)).1 with
      | .error e => .error e
      | .ok reply => .ok reply.values := by
  rw [serve_list]
  unfold listed
  dsimp only
  rw [if_pos hfast]
  by_cases hfail : s.hasFault .failList
  · rw [if_pos hfail, if_pos hfail]
  · rw [if_neg hfail, if_neg hfail]

end Service

/-! ## What a cache answers -/

theorem Provider.accessAll_append {σ : Type} [Provider σ] (provider : σ)
    (first second : List Access) :
    accessAll provider (first ++ second) = accessAll (accessAll provider first) second :=
  List.foldl_append

namespace Cache

variable {s : Service} {fetch : Fetch} {user : UserId}

theorem said_done {kind : Kind} (c : Cache) (s : Service) (answer : kind.Answer) :
    kind.said (c.carryOn s (.done answer)).answer = kind.said answer := by
  rw [carryOn_done]

theorem said_query (c : Cache) (name : String) (huser : s.requestUser fetch.user = user) :
    Kind.lookup.said
        (c.carryOn s (.calling (.query name fetch.user) (.query name fetch))).answer =
      s.queried c.ns user name := by
  have hserved : Provider.serve s c.ns (.query name fetch.user) =
      s.serve c.ns (.query name fetch.user) := rfl
  rw [carryOn_calling, hserved, ← huser, s.queried_eq]
  rcases s.serve c.ns (.query name fetch.user) with ⟨e | row, after⟩
  · exact said_done ..
  · exact said_done ..

theorem said_fallBack (c : Cache) (name : String) (e : RemoteError)
    (huser : s.requestUser fetch.user = user) :
    let turn := c.fallBack fetch name e
    Kind.lookup.said
        (turn.cache.carryOn (Provider.accessAll s turn.accesses) turn.result).answer =
      if c.config.fallback then s.queried c.ns user name else .error e := by
  unfold fallBack
  split
  · exact said_query _ name huser
  · exact said_done ..

/-- A lookup that has made a fast read falls back to a query if it has failed. -/
theorem said_get (c : Cache) (hs : s.Slotted) (name : String) (track : Bool)
    (huser : s.requestUser fetch.user = user) :
    Kind.lookup.said
        (c.carryOn s (.calling (.get ⟨name, fetch.user, track⟩) (.get name fetch))).answer =
      match s.fastRead c.ns user name with
      | .ok value => .ok value
      | .error e => if c.config.fallback then s.queried c.ns user name else .error e := by
  have hserved : Provider.serve s c.ns (.get ⟨name, fetch.user, track⟩) =
      s.serve c.ns (.get ⟨name, fetch.user, track⟩) := rfl
  have hfast := s.fastRead_eq c.ns ⟨name, fetch.user, track⟩
  have hafter : (s.serve c.ns (.get ⟨name, fetch.user, track⟩)).2.AgreeOn (fun _ _ ↦ True) s :=
    .of_contents hs (Service.contents_serve s c.ns rfl)
  have huser' := (hafter.requestUser fetch.user).trans huser
  rw [huser] at hfast
  rw [carryOn_calling, hserved, hfast, ← hafter.queried trivial]
  revert huser'
  rcases s.serve c.ns (.get ⟨name, fetch.user, track⟩) with ⟨e | _ | reply, after⟩
  · exact fun huser' ↦ said_fallBack (c.record .remoteError) name e huser'
  · exact fun huser' ↦ said_fallBack c name _ huser'
  · exact fun _ ↦ said_done ..

theorem said_goOutForLookup (c : Cache) (hs : s.Slotted) (name : String)
    (huser : s.requestUser fetch.user = user) :
    let turn := c.goOutForLookup fetch name
    Kind.lookup.said
        (turn.cache.carryOn (Provider.accessAll s turn.accesses) turn.result).answer =
      s.lookedUp c.config c.ns user name := by
  unfold goOutForLookup Service.lookedUp
  split
  · exact said_get (c.record .fastPathCall) hs name _ huser
  · exact said_fallBack c name _ huser

theorem said_list (c : Cache) (stem : String) (track : Bool)
    (huser : s.requestUser fetch.user = user) (hfast : c.config.fastPath = true) :
    Kind.listing.said
        (c.carryOn s (.calling (.list ⟨stem, fetch.user, track⟩) (.list stem fetch))).answer =
      s.listed c.config c.ns user stem := by
  have hserved : Provider.serve s c.ns (.list ⟨stem, fetch.user, track⟩) =
      s.serve c.ns (.list ⟨stem, fetch.user, track⟩) := rfl
  have hlisted := s.listed_eq c.ns c.config ⟨stem, fetch.user, track⟩ hfast
  rw [huser] at hlisted
  rw [carryOn_calling, hserved, hlisted]
  rcases s.serve c.ns (.list ⟨stem, fetch.user, track⟩) with ⟨e | reply, after⟩
  · exact said_done ..
  · exact said_done ..

theorem said_goOutForListing (c : Cache) (stem : String)
    (huser : s.requestUser fetch.user = user) :
    let turn := c.goOutForListing fetch stem
    Kind.listing.said
        (turn.cache.carryOn (Provider.accessAll s turn.accesses) turn.result).answer =
      s.listed c.config c.ns user stem := by
  unfold goOutForListing
  split
  · next hfast => exact said_list (c.record .listCall) stem _ huser hfast
  · next hfast =>
    unfold Service.listed
    rw [if_neg hfast]
    exact said_done ..

/-! ### Whole reads -/

/-- What a lookup does: it answers what is known after the check, or goes out. -/
theorem perform_lookup {σ : Type} [Provider σ] (c : Cache) (provider : σ) (name : String)
    (user : UserId) :
    c.perform provider (.lookup name user) =
      let begun := c.beginRead (Provider.view provider) user
      let reached := Provider.accessAll provider begun.accesses
      match begun.cache.knownReading? begun.result name with
      | some reading => ⟨begun.cache.record .hit, reached, .ok reading⟩
      | none =>
        let turn := (begun.cache.recordMiss begun.result).goOutForLookup begun.result name
        turn.cache.carryOn (Provider.accessAll reached turn.accesses) turn.result := by
  dsimp only [perform, start, Turn.bind]
  rw [Provider.accessAll_append]
  cases (c.beginRead (Provider.view provider) user).cache.knownReading?
    (c.beginRead (Provider.view provider) user).result name with
  | some reading =>
    rw [carryOn_done]
    rfl
  | none => rfl

/-- What a listing does. -/
theorem perform_list (c : Cache) (s : Service) (stem : String) (user : UserId) :
    c.perform s (.list stem user) =
      let begun := c.beginRead (Provider.view s) user
      let reached := Provider.accessAll s begun.accesses
      match begun.cache.knownListing? begun.result stem with
      | some values => ⟨begun.cache.record .hit, reached, .ok values⟩
      | none =>
        let turn := (begun.cache.recordMiss begun.result).goOutForListing begun.result stem
        turn.cache.carryOn (Provider.accessAll reached turn.accesses) turn.result := by
  dsimp only [perform, start, Turn.bind]
  rw [Provider.accessAll_append]
  cases (c.beginRead (Provider.view s) user).cache.knownListing?
    (c.beginRead (Provider.view s) user).result stem with
  | some values =>
    rw [carryOn_done]
    rfl
  | none => rfl

theorem known?_goOutForLookup (c : Cache) (fetch : Fetch) (name : String) :
    (c.goOutForLookup fetch name).result.known? = none := by
  unfold goOutForLookup fallBack
  split
  · rfl
  · split <;> rfl

theorem known?_goOutForListing (c : Cache) (fetch : Fetch) (stem : String) :
    (c.goOutForListing fetch stem).result.known? = none := by
  unfold goOutForListing
  split <;> rfl

theorem known?_lookup (c : Cache) (view : BlockView) (name : String) (user : UserId) :
    c.known? view (.lookup name user) =
      ((c.beginRead view user).cache.knownReading?
        (c.beginRead view user).result name).map .ok := by
  dsimp only [known?, start, Turn.bind]
  cases (c.beginRead view user).cache.knownReading? (c.beginRead view user).result name with
  | some reading => rfl
  | none => exact known?_goOutForLookup ..

theorem known?_list (c : Cache) (view : BlockView) (stem : String) (user : UserId) :
    c.known? view (.list stem user) =
      ((c.beginRead view user).cache.knownListing? (c.beginRead view user).result stem).map
        .ok := by
  dsimp only [known?, start, Turn.bind]
  cases (c.beginRead view user).cache.knownListing? (c.beginRead view user).result stem with
  | some values => rfl
  | none => exact known?_goOutForListing ..

/-- What a cache knows by itself is its answer. -/
theorem answer_of_known {σ : Type} [Provider σ] {c : Cache} {provider : σ} {kind : Kind}
    {operation : Operation kind} {answer : kind.Answer}
    (hknown : c.known? (Provider.view provider) operation = some answer) :
    (c.perform provider operation).answer = answer := by
  have hresult : (c.start (Provider.view provider) operation).result = .done answer := by
    unfold known? Progress.known? at hknown
    split at hknown
    · next hdone =>
      split at hknown
      · cases hknown
        exact hdone
      · cases hknown
    · cases hknown
  unfold perform
  dsimp only
  rw [hresult, carryOn_done]

/-- A cache that keeps nothing knows nothing by itself. -/
theorem known?_of_not_caching {c : Cache} (h : c.config.caching = false) (view : BlockView)
    {kind : Kind} (operation : Operation kind) : c.known? view operation = none := by
  have hobserved (user : UserId) : (c.beginRead view user).result.observed = none := by
    unfold beginRead
    rw [h]
    simp only [Bool.and_false, Bool.false_eq_true, if_false]
  cases operation with
  | lookup name user =>
    rw [known?_lookup, knownReading?, hobserved]
    rfl
  | list stem user =>
    rw [known?_list, knownListing?, hobserved]
    rfl
  | put | reset => rfl

/-- A cache of the service's own user says what the service has to say, unless the cache knows the
answer by itself. -/
theorem said_perform {c : Cache} {s : Service} (hs : s.Slotted) (hown : c.owner = s.ownUser)
    {kind : Kind} (operation : Operation kind)
    (hunknown : c.known? (Provider.view s) operation = none) :
    kind.said (c.perform s operation).answer = s.answer c.config c.ns operation := by
  -- A read goes out for the user it is for, and the service is as it was before the check.
  have hout (user : UserId) :
      let begun := c.beginRead (Provider.view s) user
      let out := begun.cache.recordMiss begun.result
      let reached := Provider.accessAll s begun.accesses
      out.config = c.config ∧ out.ns = c.ns ∧ reached.AgreeOn (fun _ _ ↦ True) s ∧
        reached.requestUser begun.result.user = user := by
    have hidentity := (identity_recordMiss (c.beginRead (Provider.view s) user).cache
      (c.beginRead (Provider.view s) user).result).trans (identity_beginRead ..)
    have hagree : (Provider.accessAll s (c.beginRead (Provider.view s) user).accesses).AgreeOn
        (fun _ _ ↦ True) s := .of_contents hs (Service.contents_accessAll ..)
    refine ⟨config_of_identity hidentity, ns_of_identity hidentity, hagree, ?_⟩
    rw [hagree.requestUser]
    exact (fetch_beginRead c (Provider.view s) user).requestUser hown
  cases operation with
  | lookup name user =>
    obtain ⟨hconfig, hns, hagree, huser⟩ := hout user
    rw [known?_lookup, Option.map_eq_none_iff] at hunknown
    rw [perform_lookup]
    dsimp only
    rw [hunknown]
    dsimp only
    rw [said_goOutForLookup _ hagree.slotted.1 name huser, hagree.lookedUp _ trivial, hconfig, hns]
    rfl
  | list stem user =>
    obtain ⟨hconfig, hns, hagree, huser⟩ := hout user
    rw [known?_list, Option.map_eq_none_iff] at hunknown
    rw [perform_list]
    dsimp only
    rw [hunknown]
    dsimp only
    rw [said_goOutForListing _ stem huser, hagree.listed _ trivial, hconfig, hns]
    rfl
  | put request =>
    rw [perform_put]
    exact s.isOk_serve_put c.ns request
  | reset request =>
    rw [perform_reset]
    exact s.isOk_serve_reset c.ns request

end Cache

end SettingsCache
