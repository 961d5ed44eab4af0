import SettingsCache.Proofs.Service.Change

/-!
# Services that agree on a part

A part picks out users' settings in namespaces. Two services agree on a part if they hold the same
entries there, their counters of its namespaces stand alike, and they were set up alike; what they
hold elsewhere, and which handles are out, may differ. Whatever happens to both of two services that
agree leaves them in agreement, and so does what happens to one of them alone as long as it only
reads or stays outside the part.
-/

namespace SettingsCache

/-- Whether a call only reads. -/
def Call.reads {verb : Verb} : Call verb → Bool
  | .get _ | .query _ _ | .list _ => true
  | .put _ | .reset _ => false

namespace Service

/-! ## Calls, condition by condition -/

/-- The entries of a request's user after a write that goes through. -/
def putTable (s : Service) (ns : Namespace) (request : PutRequest) : Table :=
  let table := s.table ns request.user
  table.insert request.name ((table.getD request.name {}).put request)

/-- The entries of a request's user after a reset that goes through. -/
def resetTable (s : Service) (ns : Namespace) (request : ResetRequest) : Table :=
  (s.table ns request.user).map fun _ e ↦ e.reset request.mode request.tag

theorem serve_get (s : Service) (ns : Namespace) (request : GetRequest) :
    s.serve ns (.get request) =
      let heard := s.heard ns (.get request)
      let given := heard.handOverIf request.track ns (s.generation ns)
      if s.hasFault .getUnsupported then (.error (.unsupported (ns.method .get)), heard)
      else if s.hasFault .failGet then (.error (injected ns .get), heard)
      else if s.hasFault .emptyGetReply then (.ok none, heard)
      else (.ok (some ⟨s.value ns (s.requestUser request.user) request.name, given.1⟩), given.2) :=
  rfl

theorem serve_query (s : Service) (ns : Namespace) (name : String) (user : Option UserId) :
    s.serve ns (.query name user) =
      let heard := s.heard ns (.query name user)
      if s.hasFault .failQuery then (.error (injected ns .query), heard)
      else
        (.ok ((s.entry? ns (s.requestUser user) name).map fun e ↦
          ⟨if s.hasFault .misnamedQueryRows then name ++ "_shadow" else name, e.value⟩), heard) :=
  rfl

theorem serve_list (s : Service) (ns : Namespace) (request : ListRequest) :
    s.serve ns (.list request) =
      let heard := s.heard ns (.list request)
      let given := heard.handOverIf request.track ns (s.generation ns)
      if s.hasFault .failList then (.error (injected ns .list), heard)
      else
        (.ok ⟨(NameMap.withStem (s.table ns (s.requestUser request.user)) request.stem).select
          Entry.value, given.1⟩, given.2) :=
  rfl

theorem serve_put (s : Service) (ns : Namespace) (request : PutRequest) :
    s.serve ns (.put request) =
      let heard := s.heard ns (.put request)
      if s.hasFault .failWrites then (.error (injected ns .put), heard)
      else (.ok (), (heard.setTable ns request.user (s.putTable ns request)).bump ns) :=
  rfl

theorem serve_reset (s : Service) (ns : Namespace) (request : ResetRequest) :
    s.serve ns (.reset request) =
      let heard := s.heard ns (.reset request)
      if s.hasFault .failWrites then (.error (injected ns .reset), heard)
      else (.ok (), (heard.setTable ns request.user (s.resetTable ns request)).bump ns) :=
  rfl

/-- A write goes through unless writes fail. -/
theorem isOk_serve_put (s : Service) (ns : Namespace) (request : PutRequest) :
    (s.serve ns (.put request)).1.isOk = !s.hasFault .failWrites := by
  rw [serve_put]
  dsimp only
  cases s.hasFault .failWrites <;> rfl

theorem isOk_serve_reset (s : Service) (ns : Namespace) (request : ResetRequest) :
    (s.serve ns (.reset request)).1.isOk = !s.hasFault .failWrites := by
  rw [serve_reset]
  dsimp only
  cases s.hasFault .failWrites <;> rfl

/-! ## What a read leaves alone -/

/-- What a service holds and how it is set up, whatever handles are out. -/
def contents (s : Service) : PerNamespace (Std.ExtTreeMap UserId Table) × Slots × Bool × UserId ×
    List Fault × Option Int32 :=
  (s.tables, s.block.slots, s.block.failReads, s.ownUser, s.faults, s.trackerIndex)

@[simp] theorem contents_heard (s : Service) (ns : Namespace) {verb : Verb} (call : Call verb) :
    (s.heard ns call).contents = s.contents := by
  cases call <;> rfl

@[simp] theorem contents_handOverIf (s : Service) (track : Bool) (ns : Namespace)
    (g : Generation) : (s.handOverIf track ns g).2.contents = s.contents := by
  unfold handOverIf handOver
  split
  · split <;> rfl
  · rfl

@[simp] theorem contents_access (s : Service) (access : Access) :
    (s.access access).contents = s.contents := by
  cases access <;> rfl

@[simp] theorem contents_accessAll (s : Service) (accesses : List Access) :
    (Provider.accessAll s accesses).contents = s.contents := by
  induction accesses generalizing s with
  | nil => rfl
  | cons access rest ih => exact (ih (s.access access)).trans (contents_access s access)

/-- A call that only reads changes nothing. -/
theorem contents_serve (s : Service) (ns : Namespace) {verb : Verb} {call : Call verb}
    (hreads : call.reads = true) : (s.serve ns call).2.contents = s.contents := by
  cases call with
  | get request =>
    rw [serve_get]
    dsimp only
    split
    · exact contents_heard ..
    · split
      · exact contents_heard ..
      · split
        · exact contents_heard ..
        · exact (contents_handOverIf ..).trans (contents_heard ..)
  | query name user =>
    rw [serve_query]
    dsimp only
    split <;> exact contents_heard ..
  | list request =>
    rw [serve_list]
    dsimp only
    split
    · exact contents_heard ..
    · exact (contents_handOverIf ..).trans (contents_heard ..)
  | put | reset => cases hreads

section OfContents

variable {s t : Service}

theorem tables_of_contents (h : t.contents = s.contents) : t.tables = s.tables :=
  congrArg (·.1) h

theorem slots_of_contents (h : t.contents = s.contents) : t.block.slots = s.block.slots :=
  congrArg (·.2.1) h

theorem slotted_of_contents (h : t.contents = s.contents) (hs : s.Slotted) : t.Slotted :=
  (congrArg Array.size (slots_of_contents h)).trans hs

theorem failReads_of_contents (h : t.contents = s.contents) :
    t.block.failReads = s.block.failReads :=
  congrArg (·.2.2.1) h

theorem ownUser_of_contents (h : t.contents = s.contents) : t.ownUser = s.ownUser :=
  congrArg (·.2.2.2.1) h

theorem faults_of_contents (h : t.contents = s.contents) : t.faults = s.faults :=
  congrArg (·.2.2.2.2.1) h

theorem trackerIndex_of_contents (h : t.contents = s.contents) :
    t.trackerIndex = s.trackerIndex :=
  congrArg (·.2.2.2.2.2) h

theorem setup_of_contents (h : t.contents = s.contents) : t.setup = s.setup := by
  unfold setup
  rw [ownUser_of_contents h, faults_of_contents h, trackerIndex_of_contents h,
    slots_of_contents h]

theorem generation_of_contents (h : t.contents = s.contents) (ns : Namespace) :
    t.generation ns = s.generation ns := by
  unfold generation Faulty.peek
  rw [slots_of_contents h]

theorem ticks_of_contents (h : t.contents = s.contents) (ns : Namespace) : Ticks ns s t :=
  .quiet (congrArg (·.get ns) (tables_of_contents h)) (generation_of_contents h ns)

end OfContents

/-! ## Agreement -/

/-- The tables of a service after the entries of a namespace and user were replaced. -/
theorem table_setTable (s : Service) (ns other : Namespace) (user who : UserId) (table : Table) :
    (s.setTable ns user table).table other who =
      if other = ns ∧ who = user then table else s.table other who := by
  simp only [Service.table, setTable, PerNamespace.modify]
  by_cases hns : other = ns
  · subst hns
    rw [PerNamespace.get_set_self, Std.ExtTreeMap.getD_insert]
    by_cases huser : who = user
    · simp [huser]
    · have hne : compare user who ≠ .eq := fun h ↦
        huser (Std.LawfulEqOrd.eq_of_compare h).symm
      simp [huser, hne]
  · rw [PerNamespace.get_set_of_ne _ _ hns]
    simp [hns]

/-- The users' settings in namespaces that something is about. -/
abbrev Part := Namespace → UserId → Prop

/-- Two services that hold the same in a part. -/
structure AgreeOn (part : Part) (s t : Service) : Prop where
  ownUser : s.ownUser = t.ownUser
  faults : s.faults = t.faults
  trackerIndex : s.trackerIndex = t.trackerIndex
  failReads : s.block.failReads = t.block.failReads
  slotted : s.Slotted ∧ t.Slotted
  table : ∀ ns user, part ns user → s.table ns user = t.table ns user
  counter : ∀ ns user, part ns user → s.generation ns = t.generation ns

namespace AgreeOn

variable {part : Part} {s t u : Service}

theorem of_contents (hs : s.Slotted) (h : t.contents = s.contents) : t.AgreeOn part s where
  ownUser := ownUser_of_contents h
  faults := faults_of_contents h
  trackerIndex := trackerIndex_of_contents h
  failReads := failReads_of_contents h
  slotted := ⟨slotted_of_contents h hs, hs⟩
  table ns user _ := by
    unfold Service.table
    rw [tables_of_contents h]
  counter ns _ _ := generation_of_contents h ns

theorem refl (hs : s.Slotted) : s.AgreeOn part s := of_contents hs rfl

theorem symm (h : s.AgreeOn part t) : t.AgreeOn part s :=
  ⟨h.ownUser.symm, h.faults.symm, h.trackerIndex.symm, h.failReads.symm, h.slotted.symm,
    fun ns user hp ↦ (h.table ns user hp).symm, fun ns user hp ↦ (h.counter ns user hp).symm⟩

theorem trans (h : s.AgreeOn part t) (h' : t.AgreeOn part u) : s.AgreeOn part u :=
  ⟨h.ownUser.trans h'.ownUser, h.faults.trans h'.faults, h.trackerIndex.trans h'.trackerIndex,
    h.failReads.trans h'.failReads, ⟨h.slotted.1, h'.slotted.2⟩,
    fun ns user hp ↦ (h.table ns user hp).trans (h'.table ns user hp),
    fun ns user hp ↦ (h.counter ns user hp).trans (h'.counter ns user hp)⟩

theorem hasFault (h : s.AgreeOn part t) (fault : Fault) : s.hasFault fault = t.hasFault fault := by
  unfold Service.hasFault
  rw [h.faults]

theorem requestUser (h : s.AgreeOn part t) (user : Option UserId) :
    s.requestUser user = t.requestUser user := by
  unfold Service.requestUser
  rw [h.ownUser]

/-- Services that hold and were set up with the same as ones that agree do so, too. -/
theorem congr {s' t' : Service} (h : s.AgreeOn part t) (hs : s'.contents = s.contents)
    (ht : t'.contents = t.contents) : s'.AgreeOn part t' :=
  (of_contents h.slotted.1 hs).trans (h.trans (of_contents h.slotted.2 ht).symm)

theorem value (h : s.AgreeOn part t) {ns : Namespace} {user : UserId} (hp : part ns user)
    (name : String) : s.value ns user name = t.value ns user name := by
  unfold Service.value Service.entry?
  rw [h.table ns user hp]

/-! ### Bumps and new entries -/

theorem slotted_bump (hs : s.Slotted) (ns : Namespace) : (s.bump ns).Slotted :=
  Array.size_setIfInBounds.trans hs

/-- Services that agree go on to agree if the same counter is bumped in both. -/
theorem bump (h : s.AgreeOn part t) (ns : Namespace) : (s.bump ns).AgreeOn part (t.bump ns) where
  ownUser := h.ownUser
  faults := h.faults
  trackerIndex := h.trackerIndex
  failReads := h.failReads
  slotted := ⟨slotted_bump h.slotted.1 ns, slotted_bump h.slotted.2 ns⟩
  table := h.table
  counter other user hp := by
    rw [generation_bump h.slotted.1, generation_bump h.slotted.2, h.counter other user hp]

/-- A bump outside the part leaves what is in it. -/
theorem bump_outside (h : s.AgreeOn part t) {ns : Namespace} (hns : ∀ user, ¬ part ns user) :
    (s.bump ns).AgreeOn part t where
  ownUser := h.ownUser
  faults := h.faults
  trackerIndex := h.trackerIndex
  failReads := h.failReads
  slotted := ⟨slotted_bump h.slotted.1 ns, h.slotted.2⟩
  table := h.table
  counter other user hp := by
    have hne : other ≠ ns := fun heq ↦ hns user (heq ▸ hp)
    rw [generation_bump h.slotted.1, if_neg hne, h.counter other user hp]

/-- Services that agree go on to agree if entries are replaced in both, by the same ones if they are
in the part. -/
theorem setTable (h : s.AgreeOn part t) {ns : Namespace} {user : UserId} {new new' : Table}
    (hnew : part ns user → new = new') :
    (s.setTable ns user new).AgreeOn part (t.setTable ns user new') where
  ownUser := h.ownUser
  faults := h.faults
  trackerIndex := h.trackerIndex
  failReads := h.failReads
  slotted := h.slotted
  table other who hp := by
    rw [table_setTable, table_setTable]
    split
    · next heq => exact hnew (heq.1 ▸ heq.2 ▸ hp)
    · exact h.table other who hp
  counter := h.counter

/-- Entries outside the part make no difference. -/
theorem setTable_outside (h : s.AgreeOn part t) {ns : Namespace} {user : UserId}
    (hout : ¬ part ns user) (new : Table) : (s.setTable ns user new).AgreeOn part t where
  ownUser := h.ownUser
  faults := h.faults
  trackerIndex := h.trackerIndex
  failReads := h.failReads
  slotted := h.slotted
  table other who hp := by
    have hne : ¬(other = ns ∧ who = user) := fun heq ↦ hout (heq.1 ▸ heq.2 ▸ hp)
    rw [table_setTable, if_neg hne]
    exact h.table other who hp
  counter := h.counter

/-! ### Calls -/

/-- Services that agree go on to agree if a user's entries are written in both; what is written is
the same if the entries are in the part. -/
theorem serve_put (h : s.AgreeOn part t) (ns : Namespace) {request request' : PutRequest}
    (huser : request'.user = request.user)
    (hsame : part ns request.user → request' = request) :
    (s.serve ns (.put request)).2.AgreeOn part (t.serve ns (.put request')).2 := by
  have hheard : (s.heard ns (.put request)).AgreeOn part (t.heard ns (.put request')) :=
    h.congr (contents_heard ..) (contents_heard ..)
  rw [Service.serve_put, Service.serve_put, huser]
  dsimp only
  rw [h.hasFault]
  split
  · exact hheard
  · apply bump
    apply hheard.setTable
    intro hp
    obtain rfl := hsame hp
    unfold putTable
    rw [h.table ns _ hp]

/-- So do resets. -/
theorem serve_reset (h : s.AgreeOn part t) (ns : Namespace) {request request' : ResetRequest}
    (huser : request'.user = request.user)
    (hsame : part ns request.user → request' = request) :
    (s.serve ns (.reset request)).2.AgreeOn part (t.serve ns (.reset request')).2 := by
  have hheard : (s.heard ns (.reset request)).AgreeOn part (t.heard ns (.reset request')) :=
    h.congr (contents_heard ..) (contents_heard ..)
  rw [Service.serve_reset, Service.serve_reset, huser]
  dsimp only
  rw [h.hasFault]
  split
  · exact hheard
  · apply bump
    apply hheard.setTable
    intro hp
    obtain rfl := hsame hp
    unfold resetTable
    rw [h.table ns _ hp]

/-- Services that agree go on to agree if both answer a call. -/
theorem serve (h : s.AgreeOn part t) (ns : Namespace) {verb : Verb} (call : Call verb) :
    (s.serve ns call).2.AgreeOn part (t.serve ns call).2 := by
  cases call with
  | put request => exact h.serve_put ns rfl fun _ ↦ rfl
  | reset request => exact h.serve_reset ns rfl fun _ ↦ rfl
  | get | query | list => exact h.congr (contents_serve s ns rfl) (contents_serve t ns rfl)

/-- A call about a namespace outside the part changes nothing in it. -/
theorem serve_outside (s : Service) (hs : s.Slotted) {ns : Namespace}
    (hns : ∀ user, ¬ part ns user) {verb : Verb} (call : Call verb) :
    (s.serve ns call).2.AgreeOn part s := by
  have hheard : (s.heard ns call).AgreeOn part s := of_contents hs (contents_heard ..)
  cases call with
  | put request =>
    rw [Service.serve_put]
    dsimp only
    split
    · exact hheard
    · exact (hheard.setTable_outside (hns _) _).bump_outside hns
  | reset request =>
    rw [Service.serve_reset]
    dsimp only
    split
    · exact hheard
    · exact (hheard.setTable_outside (hns _) _).bump_outside hns
  | get | query | list => exact of_contents hs (contents_serve s ns rfl)

/-! ### Steps from outside -/

/-- Services that agree go on to agree if an entry is written in both from outside; what is written
is the same if the entry is in the part. -/
theorem insert (h : s.AgreeOn part t) (ns : Namespace) (user : UserId) (name : String)
    {text text' : Option String} (hsame : part ns user → text = text') :
    (s.insert ns user name text).AgreeOn part (t.insert ns user name text') := by
  apply bump
  apply h.setTable
  intro hp
  rw [hsame hp, h.table ns user hp]

theorem slotted_setGeneration (hs : s.Slotted) (ns : Namespace) (g : Generation) :
    (s.setGeneration ns g).Slotted :=
  Array.size_setIfInBounds.trans hs

theorem setGeneration (h : s.AgreeOn part t) (ns : Namespace) (g : Generation) :
    (s.setGeneration ns g).AgreeOn part (t.setGeneration ns g) where
  ownUser := h.ownUser
  faults := h.faults
  trackerIndex := h.trackerIndex
  failReads := h.failReads
  slotted := ⟨slotted_setGeneration h.slotted.1 ns g, slotted_setGeneration h.slotted.2 ns g⟩
  table := h.table
  counter other user hp := by
    rw [generation_setGeneration h.slotted.1, generation_setGeneration h.slotted.2,
      h.counter other user hp]

theorem setGeneration_outside (h : s.AgreeOn part t) {ns : Namespace}
    (hns : ∀ user, ¬ part ns user) (g : Generation) : (s.setGeneration ns g).AgreeOn part t where
  ownUser := h.ownUser
  faults := h.faults
  trackerIndex := h.trackerIndex
  failReads := h.failReads
  slotted := ⟨slotted_setGeneration h.slotted.1 ns g, h.slotted.2⟩
  table := h.table
  counter other user hp := by
    have hne : other ≠ ns := fun heq ↦ hns user (heq ▸ hp)
    rw [generation_setGeneration h.slotted.1, if_neg hne, h.counter other user hp]

theorem setFault (h : s.AgreeOn part t) (fault : Fault) (on : Bool) :
    (s.setFault fault on).AgreeOn part (t.setFault fault on) where
  ownUser := h.ownUser
  faults := by
    unfold Service.setFault
    rw [h.faults]
  trackerIndex := h.trackerIndex
  failReads := h.failReads
  slotted := h.slotted
  table := h.table
  counter := h.counter

/-- Services that agree go on to agree if the same is done to both from outside. -/
theorem run (h : s.AgreeOn part t) (step : Scenario.ServiceStep) :
    (step.run s).2.AgreeOn part (step.run t).2 := by
  cases step with
  | insert ns user name text => exact h.insert ns user name fun _ ↦ rfl
  | bump ns => exact h.bump ns
  | setGeneration ns g => exact h.setGeneration ns g
  | setFault fault on => exact h.setFault fault on
  | setTrackerIndex index =>
    exact ⟨h.ownUser, h.faults, rfl, h.failReads, h.slotted, h.table, h.counter⟩
  | failReads on =>
    exact ⟨h.ownUser, h.faults, h.trackerIndex, rfl, h.slotted, h.table, h.counter⟩
  | failClose on =>
    exact ⟨h.ownUser, h.faults, h.trackerIndex, h.failReads, h.slotted, h.table, h.counter⟩
  | closeHandle place =>
    have hclosed (s : Service) :
        ((Scenario.ServiceStep.closeHandle place).run s).2.contents = s.contents := by
      dsimp only [Scenario.ServiceStep.run]
      split <;> rfl
    exact h.congr (hclosed s) (hclosed t)
  | call ns call => exact h.serve ns call
  | _ => exact h

end AgreeOn

theorem slotted_run {s : Service} (hs : s.Slotted) (step : Scenario.ServiceStep) :
    (step.run s).2.Slotted := by
  have hagree : s.AgreeOn (fun _ _ ↦ True) s := .refl hs
  exact (hagree.run step).slotted.1

end Service

end SettingsCache
