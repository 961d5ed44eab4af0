import SettingsCache.Proofs.Handles.Open
import SettingsCache.Proofs.Service.Entries

/-!
# The reading verbs

A service reads a setting in three ways: by a fast read, by a query of the backing collection and by
a listing. All three read the same table (`get_outcome`, `query_outcome`, `list_outcome`), so they
agree on every setting. What they leave behind is at most one more handle, and it is one that the
service had not opened before.
-/

namespace SettingsCache

open Scenario

namespace Fault

/-- The faults that keep a reading verb from its answer or give a row the wrong name. -/
def ofReads : List Fault :=
  [.getUnsupported, .failGet, .emptyGetReply, .failQuery, .failList, .misnamedQueryRows]

end Fault

namespace Service

/-- No fault of the reading verbs is switched on. -/
def ReadsTruly (s : Service) : Prop := ∀ fault ∈ Fault.ofReads, s.hasFault fault = false

instance (s : Service) : Decidable s.ReadsTruly :=
  inferInstanceAs (Decidable (∀ fault ∈ Fault.ofReads, s.hasFault fault = false))

/-- The states that a service comes to from its start, whatever is done to it: calls and changes
from outside, and what caches do to its block. -/
inductive Reached : Service → Prop
  | start (ownUser : UserId) : Reached { ownUser := ownUser }
  | moved {s t : Service} (h : s.Reached) (move : Moves (fun _ ↦ True) s t) : t.Reached

theorem Reached.run {s : Service} (h : s.Reached) (step : ServiceStep) : (step.run s).2.Reached :=
  h.moved (.step step trivial)

/-! ## Outcomes -/

variable {s : Service} (truly : s.ReadsTruly) (ns : Namespace) (user : Option UserId)

include truly

theorem get_outcome (name : String) (track : Bool) : ∃ handOver,
    (s.serve ns (.get ⟨name, user, track⟩)).1 =
      .ok (some ⟨s.value ns (s.requestUser user) name, handOver⟩) := by
  rw [serve_get]
  dsimp only
  rw [truly .getUnsupported (by decide), truly .failGet (by decide),
    truly .emptyGetReply (by decide)]
  exact ⟨_, rfl⟩

theorem query_outcome (name : String) :
    (s.serve ns (.query name user)).1 =
      .ok ((s.entry? ns (s.requestUser user) name).map fun e ↦ ⟨name, e.value⟩) := by
  rw [serve_query]
  dsimp only
  rw [truly .failQuery (by decide), truly .misnamedQueryRows (by decide)]
  rfl

theorem list_outcome (stem : String) (track : Bool) : ∃ listing,
    (s.serve ns (.list ⟨stem, user, track⟩)).1 = .ok listing ∧
      ∀ name, listing.values[name]? =
        if hasStem stem name then s.value ns (s.requestUser user) name else none := by
  have hok : ∃ listing, (s.serve ns (.list ⟨stem, user, track⟩)).1 = .ok listing := by
    rw [serve_list]
    dsimp only
    rw [truly .failList (by decide)]
    exact ⟨_, rfl⟩
  obtain ⟨listing, hlisting⟩ := hok
  have hanswer : (Provider.answer s ns (.list ⟨stem, user, track⟩) none).1 = .ok listing := hlisting
  exact ⟨listing, hlisting, (list_reply none hanswer).1⟩

omit truly

/-- A fast read answers a text just if it is what the service holds. -/
theorem get_outcome_iff (truly : s.ReadsTruly) (name text : String) (track : Bool) :
    (∃ reply, (s.serve ns (.get ⟨name, user, track⟩)).1 = .ok (some reply) ∧
      reply.value = some text) ↔ s.value ns (s.requestUser user) name = some text := by
  obtain ⟨handOver, hget⟩ := get_outcome truly ns user name track
  rw [hget]
  constructor
  · rintro ⟨reply, hreply, htext⟩
    cases hreply
    exact htext
  · exact fun htext ↦ ⟨_, rfl, htext⟩

/-! ## Handles -/

/-- The service puts the handle that a call hands over on its list. -/
theorem handles_serve (s : Service) (ns : Namespace) {verb : Verb} (call : Call verb) :
    (s.serve ns call).2.handles =
      s.handles ++ ((verb.handOver? (s.serve ns call).1).toList.map HandOver.handle).toArray := by
  have hands (s : Service) (track : Bool) (g : Generation) :
      (s.handOverIf track ns g).2.handles =
        s.handles ++
          ((s.handOverIf track ns g).1.toList.map HandOver.handle).toArray := by
    unfold handOverIf handOver
    split
    · split
      · exact (Array.append_empty ..).symm
      · exact Array.push_eq_append
    · exact (Array.append_empty ..).symm
  cases call with
  | get request =>
    rw [serve_get]
    dsimp only
    split
    · exact (Array.append_empty ..).symm
    · split
      · exact (Array.append_empty ..).symm
      · split
        · exact (Array.append_empty ..).symm
        · exact hands ..
  | list request =>
    rw [serve_list]
    dsimp only
    split
    · exact (Array.append_empty ..).symm
    · exact hands ..
  | query name user =>
    rw [serve_query]
    dsimp only
    split <;> exact (Array.append_empty ..).symm
  | put request =>
    rw [serve_put]
    dsimp only
    split <;> exact (Array.append_empty ..).symm
  | reset request =>
    rw [serve_reset]
    dsimp only
    split <;> exact (Array.append_empty ..).symm

/-- Every handle on the service's list has been opened. -/
def ListsOpened (s : Service) : Prop := ∀ h ∈ s.handles, h < s.block.closed.size

theorem ListsOpened.serve (hs : s.ListsOpened) (ns : Namespace) {verb : Verb} (call : Call verb) :
    (s.serve ns call).2.ListsOpened := by
  intro h hmem
  rw [handles_serve] at hmem
  rcases Array.mem_append.mp hmem with hold | hnew
  · exact Nat.lt_of_lt_of_le (hs h hold) (size_serve_le s ns call)
  · obtain ⟨handOver, hhandOver, rfl⟩ := List.mem_map.mp (List.mem_toArray.mp hnew)
    exact (open_handOver (Option.mem_toList.mp hhandOver)).2.lt

theorem ListsOpened.access (hs : s.ListsOpened) (access : Access) :
    (s.access access).ListsOpened := by
  have hsize := size_accessAll s [access]
  cases access with
  | read => exact hs
  | close => exact fun h hmem ↦ Nat.lt_of_lt_of_eq (hs h hmem) hsize.symm

theorem ListsOpened.run (hs : s.ListsOpened) (step : ServiceStep) :
    (step.run s).2.ListsOpened := by
  cases step with
  | closeHandle place =>
    dsimp only [ServiceStep.run]
    split
    · exact hs.access (.close _)
    · exact hs
  | call ns call => exact hs.serve ns call
  | _ => exact hs

theorem Reached.listsOpened (h : s.Reached) : s.ListsOpened := by
  induction h with
  | start ownUser => exact fun _ hmem ↦ absurd hmem (Array.not_mem_empty _)
  | moved _ move ih =>
    cases move with
    | step step => exact ih.run step
    | access access => exact ih.access access

/-! ## Agreement of the verbs -/

/-- The reading verbs of a service agree. While none of their faults is switched on, a fast read and
a query answer the same value, a listing of a stem holds just the names with the stem that a fast
read answers a text for, with this text. Whatever the faults, a reading verb changes no entry and no
counter, and what it hands over is the counter's value and a new, open handle. -/
theorem reading_verbs_agree {s : Service} (reached : s.Reached) (ns : Namespace)
    (user : Option UserId) :
    (s.ReadsTruly →
      (∀ name track, ∃ (reply : GetReply) (row : Option Row),
        (s.serve ns (.get ⟨name, user, track⟩)).1 = .ok (some reply) ∧
        (s.serve ns (.query name user)).1 = .ok row ∧
        reply.value = row.bind Row.value ∧ ∀ found ∈ row, found.name = name) ∧
      ∀ stem track, ∃ listing : ListReply,
        (s.serve ns (.list ⟨stem, user, track⟩)).1 = .ok listing ∧
        ∀ name text track', listing.values[name]? = some text ↔
          stem.toList <+: name.toList ∧
          ∃ reply, (s.serve ns (.get ⟨name, user, track'⟩)).1 = .ok (some reply) ∧
            reply.value = some text) ∧
    ∀ {verb : Verb} (call : Call verb), call.reads = true →
      (∀ place, (s.serve ns call).2.entryAt? place = s.entryAt? place) ∧
      (∀ other, (s.serve ns call).2.generation other = s.generation other) ∧
      ∀ handOver, verb.handOver? (s.serve ns call).1 = some handOver →
        handOver.generation = s.generation ns ∧
        handOver.handle ∉ s.handles ∧ s.block.closed[handOver.handle]? = none ∧
        (s.serve ns call).2.Open handOver.handle := by
  refine ⟨fun truly ↦ ⟨fun name track ↦ ?_, fun stem track ↦ ?_⟩, fun call hreads ↦ ?_⟩
  · obtain ⟨handOver, hget⟩ := get_outcome truly ns user name track
    refine ⟨_, _, hget, query_outcome truly ns user name, ?_, ?_⟩
    · rw [Option.bind_map]
      rfl
    · intro found hfound
      obtain ⟨e, -, rfl⟩ := Option.map_eq_some_iff.mp hfound
      rfl
  · obtain ⟨listing, hlist, hvalues⟩ := list_outcome truly ns user stem track
    refine ⟨listing, hlist, fun name text track' ↦ ?_⟩
    rw [hvalues, get_outcome_iff ns user truly, hasStem, ← List.isPrefixOf_iff_prefix]
    split
    · next hstem => exact (and_iff_right hstem).symm
    · next hstem => exact iff_of_false (nomatch ·) fun h ↦ hstem h.1
  · have hcontents := contents_serve s ns hreads
    refine ⟨entryAt?_of_tables (tables_of_contents hcontents),
      generation_of_contents hcontents, fun handOver hhandOver ↦ ?_⟩
    obtain ⟨hnew, hopen⟩ := open_handOver hhandOver
    refine ⟨(handsOver_serve hhandOver).generation_eq, fun hmem ↦ ?_, ?_, hopen⟩
    · exact absurd (reached.listsOpened _ hmem) (hnew ▸ Nat.lt_irrefl _)
    · rw [hnew]
      exact Array.getElem?_eq_none (Nat.le_refl _)

/-- An entry that was cleared is there for a query and for no one else. -/
theorem reading_verbs_agree_cleared :
    let s := ({ ownUser := .primary } : Service).runAll
      [.insert .global .primary "wifi_on" (some "1"), .insert .global .primary "adb" (some "0"),
        .call .global (.put ⟨"wifi_on", none, .primary, none, false⟩)]
    s.Reached ∧ s.ReadsTruly ∧
      (∃ listing, (s.serve .global (.list ⟨"", none, true⟩)).1 = .ok listing ∧
        listing.values["wifi_on"]? = none ∧ listing.values["adb"]? = some "0") ∧
      (s.serve .global (.query "wifi_on" none)).1 = .ok (some ⟨"wifi_on", none⟩) ∧
      ∃ handOver, Verb.handOver? .get (s.serve .global (.get ⟨"adb", none, true⟩)).1 =
          some handOver ∧ handOver.generation = 3 ∧
        (s.serve .global (.get ⟨"adb", none, true⟩)).2.Open handOver.handle := by
  intro s
  have reached : s.Reached := ((Reached.start _).run _ |>.run _).run _
  have truly : s.ReadsTruly := by decide +kernel
  obtain ⟨hverbs, hleft⟩ := reading_verbs_agree reached .global none
  obtain ⟨-, hlist⟩ := hverbs truly
  obtain ⟨listing, hlisting, hvalues⟩ := hlist "" true
  have hquery := query_outcome truly .global none "wifi_on"
  obtain ⟨-, -, hgiven⟩ := hleft (.get ⟨"adb", none, true⟩) rfl
  refine ⟨reached, truly, ⟨listing, hlisting, ?_, ?_⟩, ?_, ⟨_, rfl, ?_⟩⟩
  · rw [Option.eq_none_iff_forall_ne_some]
    intro text htext
    have hvalue := (get_outcome_iff .global none truly _ _ false).mp
      ((hvalues "wifi_on" text false).mp htext).2
    have hnone : s.value .global .primary "wifi_on" = none := by decide +kernel
    exact nomatch hnone.symm.trans hvalue
  · refine (hvalues "adb" "0" false).mpr ⟨List.nil_prefix, ?_⟩
    refine (get_outcome_iff .global none truly _ _ false).mpr ?_
    decide +kernel
  · have hentry : s.entry? .global .primary "wifi_on" = some {} := by decide +kernel
    rw [hquery]
    exact congrArg (fun e : Option Entry ↦ Except.ok (e.map fun e ↦ Row.mk "wifi_on" e.value))
      hentry
  · obtain ⟨hgeneration, -, -, hopen⟩ := hgiven _ rfl
    have hthree : s.generation .global = 3 := by decide +kernel
    exact ⟨hgeneration.trans hthree, hopen⟩

end Service

end SettingsCache
