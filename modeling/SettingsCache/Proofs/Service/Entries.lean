import SettingsCache.Proofs.Service.Agreement

/-!
# What becomes of entries

An entry is kept at a place: under a name, for a user, in a namespace. A step that changes entries
and is not refused is a `Write`, and the entry at a place after it is known from the one before
(`entryAt?_run`). So a run leaves at each place what its writes make of it, one after another
(`entryAt?_runAll`).
-/

namespace SettingsCache

open Scenario

/-- Where an entry is kept. -/
structure Place where
  ns : Namespace
  user : UserId
  name : String
  deriving DecidableEq

/-- A change of entries that is not refused. -/
inductive Write where
  /-- A value is written as another process would. -/
  | insert (place : Place) (value : Option String)
  | put (ns : Namespace) (request : PutRequest)
  | reset (ns : Namespace) (request : ResetRequest)

namespace Write

/-- Whether a write is about the entry of a place. -/
def About : Write → Place → Prop
  | .insert written _, place => place = written
  | .put ns request, place => place = ⟨ns, request.user, request.name⟩
  | .reset ns request, place => place.ns = ns ∧ place.user = request.user

instance (w : Write) (place : Place) : Decidable (w.About place) :=
  match w with
  | .insert .. | .put .. => inferInstanceAs (Decidable (_ = _))
  | .reset .. => inferInstanceAs (Decidable (_ ∧ _))

/-- What a write makes of an entry that it is about. A reset makes no new entry. -/
def apply : Write → Option Entry → Option Entry
  | .insert _ value, e => some { e.getD {} with value := value }
  | .put _ request, e => some ((e.getD {}).put request)
  | .reset _ request, e => e.map fun e ↦ e.reset request.mode request.tag

/-- The entry of a place after a write. -/
def on (w : Write) (place : Place) (e : Option Entry) : Option Entry :=
  if w.About place then w.apply e else e

theorem on_of_about {w : Write} {place : Place} (h : w.About place) (e : Option Entry) :
    w.on place e = w.apply e := if_pos h

theorem on_of_not_about {w : Write} {place : Place} (h : ¬ w.About place) (e : Option Entry) :
    w.on place e = e := if_neg h

/-- The entry of a place after writes, the newest first. -/
def onAll (writes : List Write) (place : Place) (e : Option Entry) : Option Entry :=
  writes.foldr (fun w e ↦ w.on place e) e

end Write

/-- The write that a call makes, if it is not refused. -/
def Call.write? (s : Service) (ns : Namespace) {verb : Verb} (call : Call verb) : Option Write :=
  match call, (s.serve ns call).1 with
  | .put request, .ok _ => some (.put ns request)
  | .reset request, .ok _ => some (.reset ns request)
  | _, _ => none

/-- The write that a step makes, if it is not refused. -/
def Scenario.ServiceStep.write? (s : Service) : ServiceStep → Option Write
  | .insert ns user name written => some (.insert ⟨ns, user, name⟩ written)
  | .call ns made => made.write? s ns
  | _ => none

namespace Service

/-- The entry at a place, if there is one. -/
def entryAt? (s : Service) (place : Place) : Option Entry :=
  s.entry? place.ns place.user place.name

/-- The service after one step after another. -/
def runAll (s : Service) (steps : List ServiceStep) : Service :=
  steps.foldl (fun s step ↦ (step.run s).2) s

/-- The writes of a run, the newest first. -/
def writes (s : Service) : List ServiceStep → List Write
  | [] => []
  | step :: rest => (step.run s).2.writes rest ++ (step.write? s).toList

/-! ## Entries after one change -/

theorem entryAt?_of_tables {s t : Service} (h : t.tables = s.tables) (place : Place) :
    t.entryAt? place = s.entryAt? place := by
  rw [entryAt?, entry?, table, h]
  rfl

/-- Replacing the entries of a namespace and user. -/
theorem entryAt?_setTable (s : Service) (ns : Namespace) (user : UserId) (table : Table)
    (place : Place) : (s.setTable ns user table).entryAt? place =
      if place.ns = ns ∧ place.user = user then table[place.name]? else s.entryAt? place := by
  rw [entryAt?, entry?, table_setTable]
  split <;> rfl

/-- Changing one entry, which is made if it is not there. -/
theorem entryAt?_insert (s : Service) (changed : Place) (e : Entry) (place : Place) :
    (s.setTable changed.ns changed.user
        ((s.table changed.ns changed.user).insert changed.name e)).entryAt? place =
      if place = changed then some e else s.entryAt? place := by
  rw [entryAt?_setTable]
  obtain ⟨ns, user, name⟩ := place
  obtain ⟨ns', user', name'⟩ := changed
  simp only [Place.mk.injEq, Std.ExtTreeMap.getElem?_insert]
  by_cases h : ns = ns' ∧ user = user'
  · obtain ⟨rfl, rfl⟩ := h
    by_cases hname : name = name'
    · simp [hname]
    · simp [hname, Ne.symm hname, entryAt?, entry?]
  · rw [if_neg h, if_neg fun hall ↦ h ⟨hall.1, hall.2.1⟩]

/-- A write through a call leaves entries as it is said. -/
theorem entryAt?_put (s : Service) (ns : Namespace) (request : PutRequest) (place : Place) :
    (s.setTable ns request.user (s.putTable ns request)).entryAt? place =
      (Write.put ns request).on place (s.entryAt? place) := by
  refine (s.entryAt?_insert ⟨ns, request.user, request.name⟩ _ place).trans ?_
  rw [Std.ExtTreeMap.getD_eq_getD_getElem?]
  change _ = if place = ⟨ns, request.user, request.name⟩ then _ else _
  by_cases h : place = ⟨ns, request.user, request.name⟩
  · rw [if_pos h, if_pos h, h]
    rfl
  · rw [if_neg h, if_neg h]

theorem entryAt?_reset (s : Service) (ns : Namespace) (request : ResetRequest) (place : Place) :
    (s.setTable ns request.user (s.resetTable ns request)).entryAt? place =
      (Write.reset ns request).on place (s.entryAt? place) := by
  rw [entryAt?_setTable]
  change _ = if place.ns = ns ∧ place.user = request.user then _ else _
  by_cases h : place.ns = ns ∧ place.user = request.user
  · rw [if_pos h, if_pos h, resetTable, Std.ExtTreeMap.getElem?_map, ← h.1, ← h.2]
    rfl
  · rw [if_neg h, if_neg h]

/-- What a call leaves at a place. -/
theorem entryAt?_serve (s : Service) (ns : Namespace) {verb : Verb} (call : Call verb)
    (place : Place) : (s.serve ns call).2.entryAt? place =
      Write.onAll (call.write? s ns).toList place (s.entryAt? place) := by
  cases call with
  | get | query | list =>
    exact entryAt?_of_tables (tables_of_contents (contents_serve s ns rfl)) place
  | put request =>
    unfold Call.write?
    rw [serve_put]
    by_cases hfail : s.hasFault .failWrites
    · simp only [hfail, if_true]
      rfl
    · simp only [hfail]
      exact s.entryAt?_put ns request place
  | reset request =>
    unfold Call.write?
    rw [serve_reset]
    by_cases hfail : s.hasFault .failWrites
    · simp only [hfail, if_true]
      rfl
    · simp only [hfail]
      exact s.entryAt?_reset ns request place

/-- What a step leaves at a place. -/
theorem entryAt?_run (s : Service) (step : ServiceStep) (place : Place) :
    (step.run s).2.entryAt? place =
      Write.onAll (step.write? s).toList place (s.entryAt? place) := by
  cases step with
  | insert ns user name value =>
    refine (s.entryAt?_insert ⟨ns, user, name⟩ _ place).trans ?_
    rw [Std.ExtTreeMap.getD_eq_getD_getElem?]
    change _ = if place = ⟨ns, user, name⟩ then _ else _
    by_cases h : place = ⟨ns, user, name⟩
    · rw [if_pos h, if_pos h, h]
      rfl
    · rw [if_neg h, if_neg h]
      rfl
  | closeHandle place =>
    dsimp only [ServiceStep.run]
    split <;> rfl
  | call ns call => exact s.entryAt?_serve ns call place
  | _ => rfl

/-- What a run leaves at a place. -/
theorem entryAt?_runAll (s : Service) (steps : List ServiceStep) (place : Place) :
    (s.runAll steps).entryAt? place =
      Write.onAll (s.writes steps) place (s.entryAt? place) := by
  induction steps generalizing s with
  | nil => rfl
  | cons step rest ih =>
    refine (ih _).trans ?_
    rw [entryAt?_run, writes, Write.onAll, Write.onAll, Write.onAll, List.foldr_append]

end Service

end SettingsCache
