import Mathlib.Algebra.Group.Int.Defs
import Mathlib.Control.Monad.Basic
import SettingsCache.Proofs.Service.Entries
import SettingsCache.Proofs.Session.Reached
import SettingsCache.Proofs.Typed.Reads

/-!
# Numbers that were stored

A client writes a number as a text, and a later read makes a number of the text that it finds. In
between are the service and the cache with whatever it held before the write. `Session.Since` says
what may have happened: anything before the write, and after it all that leaves the namespace's
entries as they are. Then a read that is answered finds the text that was written
(`Session.Since.value_eq`), so integers and truth values come back as they were stored.
-/

namespace SettingsCache

open Numeral
open Service (bumps)

/-- A write that goes through leaves its text. -/
theorem Service.value_serve_put {s : Service} {ns : Namespace} {request : PutRequest}
    (h : (s.serve ns (.put request)).1.isOk = true) :
    (s.serve ns (.put request)).2.value ns request.user request.name = request.value := by
  have hwrite : (Call.put request).write? s ns = some (.put ns request) := by
    unfold Call.write?
    cases houtcome : (s.serve ns (.put request)).1 with
    | error e =>
      rw [houtcome] at h
      cases h
    | ok reply => rfl
  have hentry := s.entryAt?_serve ns (.put request) ⟨ns, request.user, request.name⟩
  rw [hwrite] at hentry
  have hon := hentry.trans (Write.on_of_about (w := .put ns request) rfl _)
  exact congrArg (·.bind Entry.value) hon

/-- A write goes through just if the service does not refuse writes. -/
def Action.GoesThrough (write : Action Bool) : Prop :=
  ∀ (client : Client) (service : Service),
    (client.perform service write).answer = !service.hasFault .failWrites

namespace Client

theorem goesThrough_putText (ns : Namespace) (name : String) (text : Option String)
    (user : UserId) : (putText ns name text user).GoesThrough := by
  intro client service
  let request : PutRequest := ⟨name, text, user, none, false⟩
  have hput := (client.cache ns).perform_put service request
  exact (congrArg Performed.answer hput).trans (service.isOk_serve_put _ request)

/-! ## After a write -/

namespace Session

/-- What a client leaves that has carried an action out. -/
def after {α : Type} (client : Client) (service : Service) (action : Action α) : Session :=
  ⟨(client.perform service action).state, (client.perform service action).provider⟩

/-- Sessions that a client comes to after a write. A run has led to the cache and to the service,
the write has gone through, and what has happened since is fair, has left the namespace's entries
as the write left them and has not bumped the counter around. -/
inductive Since (start : Overlap Service) (write : Action Bool) : Session → Prop
  | intro {log : List (Moment Service)} {s : Overlap Service} {client : Client}
      {events : List Event} (opening : start.Opening)
      (run : Overlap.Run start.Fair start log s) (cache : client.cache start.cache.ns = s.cache)
      (went : (client.perform s.provider write).answer = true)
      (fair : ∀ event ∈ events, event.Fair start.cache.ns)
      (unchanged : ((after client s.provider write).play events).service.tables.get
        start.cache.ns = (after client s.provider write).service.tables.get start.cache.ns)
      (hbumps : bumps start.cache.ns
        (Overlap.providers log s ++ (after client s.provider write).history events) < 2 ^ 32) :
      Since start write ((after client s.provider write).play events)

variable {start : Overlap Service} {later : Session} {name : String} {user : UserId}

/-- After a write the cache is sound, and the entries are those that the write left. -/
theorem Since.sound {write : Action Bool} (since : later.Since start write) :
    ∃ (s : Overlap Service) (client : Client) (history : List Service),
      client.cache start.cache.ns = s.cache ∧ (client.cache start.cache.ns).ns = start.cache.ns ∧
      (client.perform s.provider write).answer = true ∧
      (later.of start.cache.ns).Sound history ∧ bumps start.cache.ns history < 2 ^ 32 ∧
      (later.client.cache start.cache.ns).ns = start.cache.ns ∧
      later.service.tables.get start.cache.ns =
        (client.perform s.provider write).provider.tables.get start.cache.ns := by
  obtain @⟨log, s, client, events, opening, run, cache, went, fair, unchanged, hbumps⟩ := since
  have hns : (client.cache start.cache.ns).ns = start.cache.ns :=
    (congrArg Cache.ns cache).trans (run.ns opening.fresh)
  have hbefore : (of ⟨client, s.provider⟩ start.cache.ns).Sound (Overlap.providers log s) := by
    unfold of
    rw [cache]
    exact run.session opening
  -- The write is an event like any other.
  let event : Event := .act (write.map fun _ ↦ Scenario.Answer.nothing)
  have hfair : event.Fair start.cache.ns := trivial
  obtain ⟨hwritten, hidentity⟩ := sound_next hns hbefore hfair
  have hns' := (Cache.ns_of_identity hidentity).trans hns
  obtain ⟨hlater, hidentity'⟩ := sound_play _ hns' hwritten fair
  exact ⟨s, client, _, cache, hns, went, hlater, hbumps,
    (Cache.ns_of_identity hidentity').trans hns', unchanged⟩

/-- What a lookup is answered after a write is what was written. -/
theorem Since.value_eq {text value : Option String}
    (since : later.Since start (putText start.cache.ns name text user))
    (hanswers : later.client.Answers later.service start.cache.ns name user value) :
    value = text := by
  obtain ⟨s, client, history, cache, hns, went, sound, hbumps, hns', htables⟩ := since.sound
  obtain ⟨reading, hanswer, rfl⟩ := hanswers
  have hlooked : ((later.client.cache start.cache.ns).perform later.service
      (.lookup name user)).answer = .ok reading := mapError_eq_ok_iff.mp hanswer
  have hvalue : reading.value =
      later.service.value (later.client.cache start.cache.ns).ns user name :=
    sound.value_of_answer (hns'.symm ▸ hbumps) hlooked
  rw [hns', Service.value_congr htables] at hvalue
  let request : PutRequest := ⟨name, text, user, none, false⟩
  have hput := (client.cache start.cache.ns).perform_put s.provider request
  have went' : ((client.cache start.cache.ns).perform s.provider (.put request)).answer = true :=
    went
  rw [hput, hns] at went'
  have hleft : (client.perform s.provider (putText start.cache.ns name text user)).provider =
      (s.provider.serve start.cache.ns (.put request)).2 := by
    refine (congrArg Performed.provider hput).trans ?_
    rw [hns]
    rfl
  rw [hleft] at hvalue
  exact hvalue.trans (Service.value_serve_put went')

/-- Reads that are answered after a write find its text. -/
theorem Since.answers {text : Option String}
    (since : later.Since start (putText start.cache.ns name text user))
    (answered : ∃ value, later.client.Answers later.service start.cache.ns name user value) :
    later.client.Answers later.service start.cache.ns name user text := by
  obtain ⟨value, hanswers⟩ := answered
  exact since.value_eq hanswers ▸ hanswers

/-! ## Numbers -/

variable {s : Session} {ns : Namespace}

/-- A number is what reads of a setting come to, the strict one and the one with a default. -/
structure ReadsBack {α : Type} [SettingNumber α] (s : Session) (ns : Namespace) (name : String)
    (user : UserId) (n : α) : Prop where
  strict : (s.client.perform s.service (strictly α ns name user)).answer = .ok n
  lenient : ∀ default,
    (s.client.perform s.service (number ns name user default)).answer = n

/-- A text that is read as a number reads back as this number. -/
theorem readsBack_of_read {α : Type} [SettingNumber α] {text : String} {n : α}
    (hanswers : s.client.Answers s.service ns name user (some text))
    (hread : SettingNumber.read text = .ok n) : s.ReadsBack ns name user n := by
  have hstrict : (s.client.perform s.service (strictly α ns name user)).answer = .ok n := by
    rw [answer_strictly hanswers, hread]
    rfl
  refine ⟨hstrict, fun default ↦ ?_⟩
  rw [number_goesBy.answer, hstrict]
  rfl

/-! ## Integers and truth values -/

/-- A stored integer reads back at every width that has it. -/
theorem readsBack_integer {n : Int}
    (hanswers : s.client.Answers s.service ns name user (some (writeInteger n))) :
    (∀ v : Int32, v.toInt = n → s.ReadsBack ns name user v) ∧
      ∀ v : Int64, v.toInt = n → s.ReadsBack ns name user v := by
  constructor
  · rintro v rfl
    have hread : readInt32 (writeInteger v.toInt) = .ok v :=
      readInt32_eq_ok_iff.mpr (denotesInteger_writeInteger v.toInt)
    exact readsBack_of_read hanswers (mapError_eq_ok_iff.mpr hread)
  · rintro v rfl
    have hread : readInt64 (writeInteger v.toInt) = .ok v :=
      readInt64_eq_ok_iff.mpr (denotesInteger_writeInteger v.toInt)
    exact readsBack_of_read hanswers (mapError_eq_ok_iff.mpr hread)

/-- An integer that no 32 bits hold is no number for reads of 32 bits. -/
theorem int32_of_wide {n : Int} (hwide : n < -2 ^ 31 ∨ 2 ^ 31 ≤ n)
    (hanswers : s.client.Answers s.service ns name user (some (writeInteger n))) :
    ∃ reason, (s.client.perform s.service (strictly Int32 ns name user)).answer =
      .error (.setting (.invalidNumber name (writeInteger n) reason)) := by
  rw [answer_strictly hanswers]
  cases hread : (SettingNumber.read (writeInteger n) : Except String Int32) with
  | error reason => exact ⟨reason, rfl⟩
  | ok v =>
    have hdenotes := readInt32_eq_ok_iff.mp (mapError_eq_ok_iff.mp hread)
    have hsame := hdenotes.unique (denotesInteger_writeInteger n)
    have hbelow := v.le_toInt
    have habove := v.toInt_lt
    omega

/-- Integers and truth values survive storage. They are written unless writes are refused. Then,
whatever the cache and the service had been through, and whatever has happened since that left the
namespace's entries as they were written, reads that are answered give the integer back at every
width that has it, and a truth value as it was. -/
theorem integers_survive
    (answered : ∃ value, later.client.Answers later.service start.cache.ns name user value) :
    (∀ v : Int32, (putNumber start.cache.ns name v user).GoesThrough ∧
      (later.Since start (putNumber start.cache.ns name v user) →
        later.ReadsBack start.cache.ns name user v ∧
        later.ReadsBack start.cache.ns name user v.toInt64 ∧
        ∀ default, (later.client.perform later.service
          (flag start.cache.ns name user default)).answer = (v != 0))) ∧
    (∀ v : Int64, (putNumber start.cache.ns name v user).GoesThrough ∧
      (later.Since start (putNumber start.cache.ns name v user) →
        later.ReadsBack start.cache.ns name user v ∧
        (∀ n : Int32, n.toInt = v.toInt → later.ReadsBack start.cache.ns name user n) ∧
        (v.toInt < -2 ^ 31 ∨ 2 ^ 31 ≤ v.toInt →
          (∀ default : Int32, (later.client.perform later.service
            (number start.cache.ns name user default)).answer = default) ∧
          ∃ reason, (later.client.perform later.service
            (strictly Int32 start.cache.ns name user)).answer =
              .error (.setting (.invalidNumber name (toString v.toInt) reason))))) ∧
    ∀ b, (putFlag start.cache.ns name b user).GoesThrough ∧
      (later.Since start (putFlag start.cache.ns name b user) →
        ∀ default, (later.client.perform later.service
          (flag start.cache.ns name user default)).answer = b) := by
  have hflag {n : Int32} (hback : later.ReadsBack start.cache.ns name user n) (default : Bool) :
      (later.client.perform later.service (flag start.cache.ns name user default)).answer =
        (n != 0) := by
    rw [flag_goesBy.answer, hback.strict]
  refine ⟨fun v ↦ ⟨goesThrough_putText _ _ _ _, fun since ↦ ?_⟩,
    fun v ↦ ⟨goesThrough_putText _ _ _ _, fun since ↦ ?_⟩,
    fun b ↦ ⟨goesThrough_putText _ _ _ _, fun since default ↦ ?_⟩⟩
  · obtain ⟨hint32, hint64⟩ := readsBack_integer (since.answers answered)
    exact ⟨hint32 v rfl, hint64 v.toInt64 v.toInt_toInt64, hflag (hint32 v rfl)⟩
  · have hanswers := since.answers answered
    obtain ⟨hint32, hint64⟩ := readsBack_integer hanswers
    refine ⟨hint64 v rfl, hint32, fun hwide ↦ ?_⟩
    obtain ⟨reason, hinvalid⟩ := int32_of_wide hwide hanswers
    refine ⟨fun default ↦ ?_, reason, ?_⟩
    · rw [number_goesBy.answer, hinvalid]
    · rw [hinvalid, writeInteger_eq_toString]
  · have hback := (readsBack_integer (since.answers answered)).1 (flagNumber b) rfl
    rw [hflag hback]
    cases b <;> rfl

/-- Another cache writes, every cache is cleared and fast reads begin to fail. -/
def afterwards : List Event :=
  [.act ((putFlag .system "wifi_on" true .primary).map fun _ ↦ .nothing), .clearAll,
    .change (.setFault .failGet true)]

/-- A write comes after operations that overlapped, and more happens then. -/
def overlapped (write : Action Bool) : Session :=
  let before := (Overlap.seeded.play [] Overlap.writeInFlight).2
  (after ((unchecked .primary {}).setCache .global before.cache) before.provider write).play
    afterwards

/-- The first number past the 32-bit integers, a negative one and a truth value. -/
theorem integers_survive_overlapped :
    let long := overlapped (putNumber .global "wifi_on" (2147483648 : Int64) .primary)
    let short := overlapped (putNumber .global "wifi_on" (-5 : Int32) .primary)
    let truth := overlapped (putFlag .global "wifi_on" true .primary)
    (long.ReadsBack .global "wifi_on" .primary (2147483648 : Int64) ∧
      (long.client.perform long.service
        (number .global "wifi_on" .primary (7 : Int32))).answer = 7) ∧
    (short.ReadsBack .global "wifi_on" .primary (-5 : Int32) ∧
      short.ReadsBack .global "wifi_on" .primary (-5 : Int64)) ∧
    (truth.client.perform truth.service
      (flag .global "wifi_on" .primary false)).answer = true := by
  intro long short truth
  let before := (Overlap.seeded.play [] Overlap.writeInFlight).2
  let client := (unchecked .primary {}).setCache .global before.cache
  have run : Overlap.Run Overlap.seeded.Fair Overlap.seeded _ before :=
    Overlap.Run.nil.play Overlap.writeInFlight
  have hafter : ∀ event ∈ afterwards, event.Fair .global := by
    simp [afterwards, Event.Fair, Scenario.ServiceStep.Fair]
  have since {write : Action Bool} (hwrite : write.GoesThrough)
      (unchanged : (overlapped write).service.tables.get .global =
        (after client before.provider write).service.tables.get .global)
      (hbumps : bumps .global (Overlap.providers (Overlap.seeded.play [] Overlap.writeInFlight).1
        before ++ (after client before.provider write).history afterwards) < 2 ^ 32) :
      (overlapped write).Since Overlap.seeded write := by
    refine .intro Overlap.opening_seeded run (cache_setCache_self ..) ?_ hafter unchanged hbumps
    rw [hwrite]
    rfl
  have hlong : long.client.Answers long.service .global "wifi_on" .primary (some "2147483648") :=
    ⟨⟨some "2147483648", .fallback, none⟩, by decide +kernel, rfl⟩
  have hshort : short.client.Answers short.service .global "wifi_on" .primary (some "-5") :=
    ⟨⟨some "-5", .fallback, none⟩, by decide +kernel, rfl⟩
  have htruth : truth.client.Answers truth.service .global "wifi_on" .primary (some "1") :=
    ⟨⟨some "1", .fallback, none⟩, by decide +kernel, rfl⟩
  obtain ⟨hgoes, hback⟩ := (@integers_survive Overlap.seeded long _ _ ⟨_, hlong⟩).2.1 2147483648
  obtain ⟨hgoes', hback'⟩ := (@integers_survive Overlap.seeded short _ _ ⟨_, hshort⟩).1 (-5)
  obtain ⟨hgoes'', hback''⟩ := (@integers_survive Overlap.seeded truth _ _ ⟨_, htruth⟩).2.2 true
  obtain ⟨hread, -, hwide⟩ := hback (since hgoes (by decide +kernel) (by decide +kernel))
  obtain ⟨hdefault, -⟩ := hwide (.inr (by decide))
  obtain ⟨hread', hread64, -⟩ := hback' (since hgoes' (by decide +kernel) (by decide +kernel))
  have hflag := hback'' (since hgoes'' (by decide +kernel) (by decide +kernel)) false
  exact ⟨⟨hread, hdefault 7⟩, ⟨hread', hread64⟩, hflag⟩

end Session

end Client

end SettingsCache
