import SettingsCache.Proofs.Service.Entries

/-!
# Defaults, tags and resets

The default, the tag and the value of a setting are what was given by the latest write that gives
one at all. Puts give all three, inserts give values, and resets give back the default that the
setting had at that moment, if they apply to it, or take its tag away (`Service.follows_writes`). A
reset comes to the same when it is repeated, and in whatever order it gets to the entries.
-/

namespace SettingsCache

open Scenario

namespace Entry

@[simp] theorem default_reset (e : Entry) (mode : ResetMode) (tag : Option String) :
    (e.reset mode tag).default = e.default := by
  unfold reset
  cases mode with
  | packageDefaults =>
    dsimp only
    split <;> rfl
  | untrustedDefaults | untrustedChanges | trustedDefaults => rfl

theorem tag_reset (e : Entry) (mode : ResetMode) (tag : Option String) :
    (e.reset mode tag).tag = if mode = .untrustedChanges then none else e.tag := by
  unfold reset
  cases mode with
  | packageDefaults =>
    dsimp only
    split <;> rfl
  | untrustedDefaults | untrustedChanges | trustedDefaults => rfl

/-- Repeating a reset changes nothing. -/
theorem reset_reset (e : Entry) (mode : ResetMode) (tag : Option String) :
    (e.reset mode tag).reset mode tag = e.reset mode tag := by
  cases mode with
  | packageDefaults =>
    unfold reset
    dsimp only
    by_cases h : (tag.isSome && e.tag == tag) = true
    · rw [if_pos h]
      exact if_pos h
    · rw [if_neg h, if_neg h]
  | untrustedDefaults | untrustedChanges | trustedDefaults => rfl

end Entry

/-- Whether a reset applies to an entry with a tag. A reset of package defaults needs the tag. -/
def ResetRequest.Applies (request : ResetRequest) (tag : Option String) : Prop :=
  request.mode = .packageDefaults → request.tag ≠ none ∧ tag = request.tag

instance (request : ResetRequest) (tag : Option String) : Decidable (request.Applies tag) :=
  inferInstanceAs (Decidable (_ → _))

/-- A reset that applies to an entry gives it its default as a value. -/
theorem Entry.value_reset (e : Entry) (request : ResetRequest) :
    (e.reset request.mode request.tag).value =
      if request.Applies e.tag then e.default else e.value := by
  obtain ⟨mode, tag, user⟩ := request
  cases mode with
  | packageDefaults =>
    have hiff : ResetRequest.Applies ⟨.packageDefaults, tag, user⟩ e.tag ↔
        (tag.isSome && e.tag == tag) = true := by
      simp [ResetRequest.Applies, Option.isSome_iff_ne_none]
    unfold reset
    dsimp only
    by_cases h : (tag.isSome && e.tag == tag) = true
    · rw [if_pos h, if_pos (hiff.mpr h)]
      rfl
    · rw [if_neg h, if_neg fun happlies ↦ h (hiff.mp happlies)]
  | untrustedDefaults | untrustedChanges | trustedDefaults => exact (if_pos nofun).symm

namespace Write

/-! ## What writes give -/

/-- The default that a write gives to a place, if it gives one. -/
def givenDefault? (place : Place) (w : Write) : Option (Option String) :=
  if w.About place then
    match w with
    | .put _ request => if request.makeDefault then some request.value else none
    | .insert .. | .reset .. => none
  else none

/-- The default that writes, the newest first, leave a place with. -/
def defaultAfter (place : Place) (writes : List Write) : Option String :=
  (writes.findSome? (givenDefault? place)).join

/-- The tag that a write gives to a place, or none if it takes the tag away. -/
def givenTag? (place : Place) (w : Write) : Option (Option String) :=
  if w.About place then
    match w with
    | .put _ request => some request.tag
    | .reset _ request => if request.mode = .untrustedChanges then some none else none
    | .insert .. => none
  else none

/-- The tag that writes, the newest first, leave a place with. -/
def tagAfter (place : Place) (writes : List Write) : Option String :=
  (writes.findSome? (givenTag? place)).join

/-- The value that a write gives to a place, after the writes before it. -/
def givenValue? (place : Place) (earlier : List Write) (w : Write) : Option (Option String) :=
  if w.About place then
    match w with
    | .insert _ value => some value
    | .put _ request => some request.value
    | .reset _ request =>
      if request.Applies (tagAfter place earlier) then some (defaultAfter place earlier) else none
  else none

/-- The value that writes, the newest first, leave a place with. -/
def valueAfter (place : Place) : List Write → Option String
  | [] => none
  | w :: earlier => (givenValue? place earlier w).getD (valueAfter place earlier)

theorem defaultAfter_cons (place : Place) (w : Write) (earlier : List Write) :
    defaultAfter place (w :: earlier) =
      (givenDefault? place w).getD (defaultAfter place earlier) := by
  rw [defaultAfter, List.findSome?_cons]
  cases givenDefault? place w <;> rfl

theorem tagAfter_cons (place : Place) (w : Write) (earlier : List Write) :
    tagAfter place (w :: earlier) = (givenTag? place w).getD (tagAfter place earlier) := by
  rw [tagAfter, List.findSome?_cons]
  cases givenTag? place w <;> rfl

/-- An entry is what writes, the newest first, leave a place with. -/
structure Leave (writes : List Write) (place : Place) (e : Option Entry) : Prop where
  default : e.bind Entry.default = defaultAfter place writes
  tag : e.bind Entry.tag = tagAfter place writes
  value : e.bind Entry.value = valueAfter place writes

namespace Leave

variable {earlier : List Write} {place : Place} {e : Option Entry}

/-- An entry that is made anew has neither default nor tag, like one that is not there. -/
theorem getD_default (h : Leave earlier place e) :
    (e.getD {}).default = defaultAfter place earlier := by
  rw [← h.default]
  cases e <;> rfl

theorem getD_tag (h : Leave earlier place e) : (e.getD {}).tag = tagAfter place earlier := by
  rw [← h.tag]
  cases e <;> rfl

theorem insert (h : Leave earlier place e) {written : Place} {value : Option String}
    (habout : (Write.insert written value).About place) :
    Leave (.insert written value :: earlier) place ((Write.insert written value).apply e) where
  default := by
    rw [defaultAfter_cons, givenDefault?, if_pos habout]
    exact h.getD_default
  tag := by
    rw [tagAfter_cons, givenTag?, if_pos habout]
    exact h.getD_tag
  value := by
    rw [valueAfter, givenValue?, if_pos habout]
    rfl

theorem put (h : Leave earlier place e) {ns : Namespace} {request : PutRequest}
    (habout : (Write.put ns request).About place) :
    Leave (.put ns request :: earlier) place ((Write.put ns request).apply e) where
  default := by
    rw [defaultAfter_cons, givenDefault?, if_pos habout, ← h.getD_default]
    change (if request.makeDefault then request.value else (e.getD {}).default) = _
    cases request.makeDefault <;> rfl
  tag := by
    rw [tagAfter_cons, givenTag?, if_pos habout]
    rfl
  value := by
    rw [valueAfter, givenValue?, if_pos habout]
    rfl

theorem reset (h : Leave earlier place e) {ns : Namespace} {request : ResetRequest}
    (habout : (Write.reset ns request).About place) :
    Leave (.reset ns request :: earlier) place ((Write.reset ns request).apply e) where
  default := by
    rw [defaultAfter_cons, givenDefault?, if_pos habout, ← h.default]
    cases e with
    | none => rfl
    | some e => exact e.default_reset ..
  tag := by
    rw [tagAfter_cons, givenTag?, if_pos habout, ← h.tag]
    cases e with
    | none => cases request.mode <;> rfl
    | some e =>
      refine (e.tag_reset ..).trans ?_
      cases request.mode <;> rfl
  value := by
    rw [valueAfter, givenValue?, if_pos habout, ← h.default, ← h.tag, ← h.value]
    cases e with
    | none => split <;> rfl
    | some e =>
      refine (e.value_reset request).trans ?_
      dsimp only [Option.bind_some]
      split <;> rfl

/-- One more write leaves what it gives, and what was there where it gives nothing. -/
theorem on (h : Leave earlier place e) (w : Write) :
    Leave (w :: earlier) place (w.on place e) := by
  by_cases habout : w.About place
  · rw [on_of_about habout]
    cases w with
    | insert => exact h.insert habout
    | put => exact h.put habout
    | reset => exact h.reset habout
  · rw [on_of_not_about habout]
    refine ⟨?_, ?_, ?_⟩
    · rw [defaultAfter_cons, h.default]
      unfold givenDefault?
      rw [if_neg habout]
      rfl
    · rw [tagAfter_cons, h.tag]
      unfold givenTag?
      rw [if_neg habout]
      rfl
    · rw [valueAfter, h.value]
      unfold givenValue?
      rw [if_neg habout]
      rfl

end Leave

/-- Writes to a place where there was no entry. -/
theorem leave_onAll (writes : List Write) (place : Place) :
    Leave writes place (onAll writes place none) := by
  induction writes with
  | nil => exact ⟨rfl, rfl, rfl⟩
  | cons w earlier ih => exact ih.on w

/-! ## Resets -/

/-- Repeating a reset changes nothing at any place. -/
theorem on_on_reset (ns : Namespace) (request : ResetRequest) (place : Place)
    (e : Option Entry) :
    (Write.reset ns request).on place ((Write.reset ns request).on place e) =
      (Write.reset ns request).on place e := by
  by_cases habout : (Write.reset ns request).About place
  · rw [on_of_about habout, on_of_about habout]
    cases e with
    | none => rfl
    | some e => exact congrArg some (e.reset_reset ..)
  · rw [on_of_not_about habout, on_of_not_about habout]

theorem isSome_on_reset (ns : Namespace) (request : ResetRequest) (place : Place)
    (e : Option Entry) : ((Write.reset ns request).on place e).isSome = e.isSome := by
  by_cases habout : (Write.reset ns request).About place
  · rw [on_of_about habout]
    exact Option.isSome_map
  · rw [on_of_not_about habout]

theorem default_on_reset (ns : Namespace) (request : ResetRequest) (place : Place)
    (e : Option Entry) :
    ((Write.reset ns request).on place e).bind Entry.default = e.bind Entry.default := by
  by_cases habout : (Write.reset ns request).About place
  · rw [on_of_about habout]
    cases e with
    | none => rfl
    | some e => exact e.default_reset ..
  · rw [on_of_not_about habout]

end Write

namespace Service

/-- A reset that is refused leaves every entry, and one that goes through makes of it what it
says. -/
theorem entryAt?_serve_reset (s : Service) (ns : Namespace) (request : ResetRequest)
    (place : Place) : (s.serve ns (.reset request)).2.entryAt? place =
      if s.hasFault .failWrites then s.entryAt? place
      else (Write.reset ns request).on place (s.entryAt? place) := by
  rw [serve_reset]
  dsimp only
  split
  · rfl
  · exact s.entryAt?_reset ns request place

/-- The service once a reset has got to the entry of a place. -/
def resetAt (s : Service) (ns : Namespace) (request : ResetRequest) (place : Place) : Service :=
  match s.entryAt? place with
  | some e =>
    if place.ns = ns ∧ place.user = request.user then
      s.setTable place.ns place.user
        ((s.table place.ns place.user).insert place.name (e.reset request.mode request.tag))
    else s
  | none => s

/-- The service once a reset has got to one place after another. -/
def resetAlong (s : Service) (ns : Namespace) (request : ResetRequest) (order : List Place) :
    Service :=
  order.foldl (fun s place ↦ s.resetAt ns request place) s

theorem entryAt?_resetAt (s : Service) (ns : Namespace) (request : ResetRequest)
    (visited place : Place) : (s.resetAt ns request visited).entryAt? place =
      if place = visited then (Write.reset ns request).on place (s.entryAt? place)
      else s.entryAt? place := by
  unfold resetAt
  cases he : s.entryAt? visited with
  | none =>
    by_cases h : place = visited
    · rw [if_pos h, h, he]
      exact (ite_self none).symm
    · rw [if_neg h]
  | some e =>
    dsimp only
    by_cases habout : visited.ns = ns ∧ visited.user = request.user
    · rw [if_pos habout, entryAt?_insert]
      by_cases h : place = visited
      · rw [if_pos h, if_pos h, h, he]
        exact (if_pos habout).symm
      · rw [if_neg h, if_neg h]
    · rw [if_neg habout]
      by_cases h : place = visited
      · rw [if_pos h, h]
        exact (if_neg habout).symm
      · rw [if_neg h]

theorem entryAt?_resetAlong (s : Service) (ns : Namespace) (request : ResetRequest)
    (order : List Place) (place : Place) : (s.resetAlong ns request order).entryAt? place =
      if place ∈ order then (Write.reset ns request).on place (s.entryAt? place)
      else s.entryAt? place := by
  induction order generalizing s with
  | nil => rfl
  | cons visited rest ih =>
    refine (ih _).trans ?_
    rw [entryAt?_resetAt]
    by_cases h : place = visited
    · simp [h, Write.on_on_reset]
    · simp [h]

/-- What is so of every reset. -/
structure Resets (s : Service) (ns : Namespace) (request : ResetRequest) : Prop where
  /-- Repeating it changes no entry. -/
  repeated : ∀ place,
    ((s.serve ns (.reset request)).2.serve ns (.reset request)).2.entryAt? place =
      (s.serve ns (.reset request)).2.entryAt? place
  /-- It changes no default. -/
  default : ∀ other user name,
    (s.serve ns (.reset request)).2.defaultValue other user name = s.defaultValue other user name
  /-- It makes no entry, and takes none away. -/
  present : ∀ place,
    ((s.serve ns (.reset request)).2.entryAt? place).isSome = (s.entryAt? place).isSome
  /-- If it goes through, it comes to the same in whatever order it gets to the entries. -/
  order : (s.serve ns (.reset request)).1.isOk → ∀ order : List Place,
    (∀ place, (s.entryAt? place).isSome → place ∈ order) →
      ∀ place, (s.resetAlong ns request order).entryAt? place =
        (s.serve ns (.reset request)).2.entryAt? place

theorem resets (s : Service) (ns : Namespace) (request : ResetRequest) : s.Resets ns request where
  repeated place := by
    have hfault : (s.serve ns (.reset request)).2.hasFault .failWrites = s.hasFault .failWrites :=
      hasFault_of_setup (setup_serve ..) _
    rw [entryAt?_serve_reset, hfault, entryAt?_serve_reset]
    split
    · rfl
    · exact Write.on_on_reset ..
  default other user name := by
    change ((s.serve ns (.reset request)).2.entryAt? ⟨other, user, name⟩).bind Entry.default =
      (s.entryAt? ⟨other, user, name⟩).bind Entry.default
    rw [entryAt?_serve_reset]
    split
    · rfl
    · exact Write.default_on_reset ..
  present place := by
    rw [entryAt?_serve_reset]
    split
    · rfl
    · exact Write.isSome_on_reset ..
  order hok order hall place := by
    rw [isOk_serve_reset, Bool.not_eq_true'] at hok
    rw [entryAt?_resetAlong, entryAt?_serve_reset, hok, if_neg Bool.false_ne_true]
    by_cases hmem : place ∈ order
    · rw [if_pos hmem]
    · rw [if_neg hmem]
      cases he : s.entryAt? place with
      | none => exact (ite_self none).symm
      | some e => exact absurd (hall place (by rw [he]; rfl)) hmem

/-! ## Histories -/

/-- At the start there are no entries. -/
theorem entryAt?_start (user : UserId) (place : Place) :
    ({ ownUser := user } : Service).entryAt? place = none := by
  simp [entryAt?, entry?, table]

/-- The settings of a service go by its history of writes. In every run from the start, each
setting's default, tag and value are what the latest writes gave, and every reset comes to the same
when it is repeated and in whatever order it gets to the entries. -/
theorem follows_writes (user : UserId) (steps : List ServiceStep) :
    let start : Service := { ownUser := user }
    (∀ place, (start.runAll steps).defaultValue place.ns place.user place.name =
      Write.defaultAfter place (start.writes steps)) ∧
    (∀ place, (start.runAll steps).tag place.ns place.user place.name =
      Write.tagAfter place (start.writes steps)) ∧
    (∀ place, (start.runAll steps).value place.ns place.user place.name =
      Write.valueAfter place (start.writes steps)) ∧
    ∀ ns request, (start.runAll steps).Resets ns request := by
  intro start
  have hleave (place : Place) :
      Write.Leave (start.writes steps) place ((start.runAll steps).entryAt? place) := by
    rw [entryAt?_runAll, entryAt?_start]
    exact Write.leave_onAll ..
  exact ⟨fun place ↦ (hleave place).default, fun place ↦ (hleave place).tag,
    fun place ↦ (hleave place).value, fun ns request ↦ resets _ ns request⟩

/-- A value that was put without becoming the default is reset by the tag that it was put with. -/
example :
    (({ ownUser := .primary } : Service).runAll
      [.call .global (.put ⟨"volume", some "5", .primary, some "pkg", true⟩),
        .call .global (.put ⟨"volume", some "9", .primary, some "pkg", false⟩),
        .call .global (.reset ⟨.packageDefaults, some "pkg", .primary⟩)]).value
      .global .primary "volume" = some "5" := by
  decide +kernel

end Service

end SettingsCache
