import SettingsCache.Proofs.Overlap.Schedule
import SettingsCache.Proofs.Service.Entries
import SettingsCache.Proofs.Session.Perform

/-!
# Writes through a cache

A write or a reset is refused as a whole or goes through as a whole: the service changes the entries
that it is about and bumps the counter of their namespace once, or it changes neither. The cache
keeps everything but the count of failed calls, and reads no counter
(`Overlap.Run.writes_atomic`).
-/

namespace SettingsCache

/-! ## The service -/

/-- Whether a write that goes through may change the entry of a place. A reset may only change one
that is there. -/
def Write.MayChange (s : Service) : Write → Place → Prop
  | .insert written _, place => place = written
  | .put ns request, place => place = ⟨ns, request.user, request.name⟩
  | .reset ns request, place =>
    place.ns = ns ∧ place.user = request.user ∧ (s.entryAt? place).isSome = true

/-- What a write to a namespace has done to the service: it went through or was refused. -/
structure Service.Wrote (s : Service) (ns : Namespace) (w : Write) (ok : Bool) (s' : Service) :
    Prop where
  refused_iff : ok = false ↔ s.hasFault .failWrites = true
  /-- A refused write leaves the entries and the counters. -/
  refused : ok = false → s'.tables = s.tables ∧ ∀ other, s'.generation other = s.generation other
  /-- A write that went through has made of the entries what it should. -/
  entries : ok = true → ∀ place, s'.entryAt? place = w.on place (s.entryAt? place)
  /-- It has left the entries that it may not change. -/
  untouched : ok = true → ∀ place, ¬ w.MayChange s place → s'.entryAt? place = s.entryAt? place
  /-- It has moved on the counter of the namespace by one, and no other. -/
  counters : ok = true → ∀ other,
    s'.generation other = if other = ns then s.generation other + 1 else s.generation other
  /-- No counter was read. -/
  reads : s'.block.reads = s.block.reads

/-- A write leaves an entry alone that it may not change. -/
theorem Write.on_of_not_mayChange {s : Service} {w : Write} {place : Place}
    (h : ¬ w.MayChange s place) : w.on place (s.entryAt? place) = s.entryAt? place := by
  by_cases habout : w.About place
  · cases w with
    | insert | put => exact absurd habout h
    | reset ns request =>
      have hnone : s.entryAt? place = none := by
        rw [← Option.not_isSome_iff_eq_none]
        exact fun hsome ↦ h ⟨habout.1, habout.2, hsome⟩
      rw [hnone, Write.on]
      exact ite_self none
  · exact Write.on_of_not_about habout _

namespace Service

variable {s : Service} {ns : Namespace}

/-- Putting entries in place and bumping the counter after it. -/
theorem wrote_of_not_failing {w : Write} {t : Service} (hs : s.Slotted)
    (hfail : s.hasFault .failWrites = false) (hblock : t.block = s.block)
    (hentries : ∀ place, t.entryAt? place = w.on place (s.entryAt? place)) :
    s.Wrote ns w true (t.bump ns) where
  refused_iff := by simp [hfail]
  refused := nofun
  entries _ := hentries
  untouched _ place h := (hentries place).trans (Write.on_of_not_mayChange h)
  counters _ other := by
    have ht : t.Slotted := by
      unfold Slotted
      rw [hblock]
      exact hs
    have hsame : t.generation other = s.generation other := by rw [generation, hblock, generation]
    rw [generation_bump ht, hsame]
  reads := by
    change t.block.reads = s.block.reads
    rw [hblock]

theorem wrote_of_failing {w : Write} {t : Service} (hfail : s.hasFault .failWrites = true)
    (htables : t.tables = s.tables) (hblock : t.block = s.block) : s.Wrote ns w false t where
  refused_iff := by simp [hfail]
  refused _ := ⟨htables, fun other ↦ congrArg (·.peek other.slot) hblock⟩
  entries := nofun
  untouched := nofun
  counters := nofun
  reads := congrArg Faulty.reads hblock

theorem wrote_put (hs : s.Slotted) (ns : Namespace) (request : PutRequest) :
    s.Wrote ns (.put ns request) (s.serve ns (.put request)).1.isOk
      (s.serve ns (.put request)).2 := by
  rw [isOk_serve_put, serve_put]
  cases hfail : s.hasFault .failWrites with
  | true => exact wrote_of_failing hfail rfl rfl
  | false => exact wrote_of_not_failing hs hfail rfl (s.entryAt?_put ns request)

theorem wrote_reset (hs : s.Slotted) (ns : Namespace) (request : ResetRequest) :
    s.Wrote ns (.reset ns request) (s.serve ns (.reset request)).1.isOk
      (s.serve ns (.reset request)).2 := by
  rw [isOk_serve_reset, serve_reset]
  cases hfail : s.hasFault .failWrites with
  | true => exact wrote_of_failing hfail rfl rfl
  | false => exact wrote_of_not_failing hs hfail rfl (s.entryAt?_reset ns request)

end Service

/-! ## The cache -/

/-- What a write through a cache has done. -/
structure Cache.Wrote (c : Cache) (s : Service) (w : Write)
    (performed : Performed Cache Service Bool) : Prop where
  service : s.Wrote c.ns w performed.answer performed.provider
  /-- The cache is as it was, but for what it counts. -/
  kept : performed.state = { c with stats := performed.state.stats }
  /-- A refusal is counted once, and nothing else is. -/
  counted : ∀ counter, performed.state.stats.count counter =
    if counter = .remoteError ∧ performed.answer = false then c.stats.count counter + 1
    else c.stats.count counter

theorem Cache.Wrote.store_eq {c : Cache} {s : Service} {w : Write}
    {performed : Performed Cache Service Bool} (h : c.Wrote s w performed) :
    performed.state.store = c.store := by
  rw [h.kept]

theorem Cache.afterWrite_eq (c : Cache) (ok : Bool) :
    c.afterWrite ok = { c with stats := (c.afterWrite ok).stats } := by
  cases ok <;> rfl

theorem Cache.count_afterWrite (c : Cache) (ok : Bool) (counter : Counter) :
    (c.afterWrite ok).stats.count counter =
      if counter = .remoteError ∧ ok = false then c.stats.count counter + 1
      else c.stats.count counter := by
  cases ok with
  | true => simp [afterWrite]
  | false => simp [afterWrite, record, Stats.count_record]

/-! ## Providers that do no more than they must -/

/-- How a provider answers the calls that it must answer, and the block that it holds. -/
structure RequiredCalls (σ : Type) where
  get : σ → Namespace → GetRequest → Verb.Outcome .get × σ
  put : σ → Namespace → PutRequest → Verb.Outcome .put × σ
  query : σ → Namespace → String → Option UserId → Verb.Outcome .query × σ
  view : σ → BlockView
  access : σ → Access → σ

/-- The provider that answers these calls and no others. -/
@[reducible]
def RequiredCalls.provider {σ : Type} (calls : RequiredCalls σ) : Provider σ where
  serve provider ns call :=
    match call with
    | .get request => calls.get provider ns request
    | .put request => calls.put provider ns request
    | .query name user => calls.query provider ns name user
    | .list _ => (.error (.unsupported (ns.method .list)), provider)
    | .reset _ => (.error (.unsupported (ns.method .reset)), provider)
  view := calls.view
  access := calls.access

namespace Overlap

variable {start s : Overlap Service} {log : List (Moment Service)}
  {allowed : Scenario.ServiceStep → Prop}

/-- Whatever happens, each namespace keeps its slot. -/
theorem Run.slotted (run : Run (Service.Moves allowed) start log s)
    (h : start.provider.Slotted) : s.provider.Slotted := by
  induction run with
  | nil => exact h
  | snoc run step ih =>
    cases step with
    | begin | resume | clear => exact Service.slotted_of_contents (Service.contents_accessAll ..) ih
    | note hout hnote =>
      obtain ⟨rfl, -⟩ := Service.note?_eq hnote
      exact Service.slotted_of_setup (Service.setup_heard ..) ih
    | answer => exact Service.slotted_of_setup (Service.setup_answer ..) ih
    | move hmove =>
      cases hmove with
      | step step => exact Service.slotted_run ih step
      | access access => exact Service.slotted_of_contents (Service.contents_access ..) ih

/-- In every state that a cache over a service can come to, a write or a reset is refused as a
whole, just if writes fail, or goes through as a whole, and the cache keeps what it holds. A
provider that does no more than it must refuses every reset. -/
theorem Run.writes_atomic {user : UserId}
    (run : Run (Service.Moves fun _ ↦ True) start log s)
    (hstart : start.provider = { ownUser := user }) :
    (∀ request, s.cache.Wrote s.provider (.put s.cache.ns request)
      (s.cache.perform s.provider (.put request))) ∧
    (∀ request, s.cache.Wrote s.provider (.reset s.cache.ns request)
      (s.cache.perform s.provider (.reset request))) ∧
    ∀ (σ : Type) (calls : RequiredCalls σ) (provider : σ) (c : Cache) (request : ResetRequest),
      letI := calls.provider
      c.perform provider (.reset request) = ⟨c.record .remoteError, provider, false⟩ := by
  have hslotted : s.provider.Slotted := run.slotted (by rw [hstart]; rfl)
  refine ⟨fun request ↦ ?_, fun request ↦ ?_, fun σ calls provider c request ↦ ?_⟩
  · rw [Cache.perform_put]
    exact ⟨Service.wrote_put hslotted _ request, Cache.afterWrite_eq ..,
      fun _ ↦ Cache.count_afterWrite ..⟩
  · rw [Cache.perform_reset]
    exact ⟨Service.wrote_reset hslotted _ request, Cache.afterWrite_eq ..,
      fun _ ↦ Cache.count_afterWrite ..⟩
  · let := calls.provider
    rw [Cache.perform_reset]
    rfl

/-- A cache over a service, at the start. -/
def atStart : Overlap Service where
  cache := { ns := .global, owner := .primary, config := {} }
  provider := { ownUser := .primary }
  outstanding := []

/-- A setting is written with its default and then without it, and looked up after that. -/
def writtenTwice : List Act :=
  [.begin (.put ⟨"volume", some "5", .primary, none, true⟩), .answer 0, .resume 0,
    .begin (.put ⟨"volume", some "7", .primary, none, false⟩), .answer 0, .resume 0,
    .begin (.lookup "volume" .primary), .answer 0, .resume 0]

/-- The cache and the service after that, with writes failing or not. -/
def afterWrites (failing : Bool) : Overlap Service :=
  let s := (atStart.play [] writtenTwice).2
  { s with provider := ((Scenario.ServiceStep.setFault .failWrites failing).run s.provider).2 }

/-- What a write has left: the entry of "volume", the counter and the number of failed calls. The
cache still has the value of the lookup and its generation. -/
structure VolumeLeft (performed : Performed Cache Service Bool) (entry : Entry) (g : Generation)
    (errors : UInt64) : Prop where
  entry : performed.provider.entryAt? ⟨.global, .primary, "volume"⟩ = some entry
  counter : performed.provider.generation .global = g
  errors : performed.state.stats.count .remoteError = errors
  kept : performed.state.store.values["volume"]? = some (some "7")
  generation : performed.state.store.generation = some 2

theorem kept_afterWrites (failing : Bool) :
    (afterWrites failing).cache.store.values["volume"]? = some (some "7") ∧
      (afterWrites failing).cache.store.generation = some 2 := by
  cases failing <;> decide +kernel

theorem volumeLeft_of_through {w : Write} {performed : Performed Cache Service Bool} {entry : Entry}
    (h : (afterWrites false).cache.Wrote (afterWrites false).provider w performed)
    (hentry : w.on ⟨.global, .primary, "volume"⟩ (some ⟨some "7", some "5", none⟩) = some entry) :
    performed.answer = true ∧ VolumeLeft performed entry 3 0 := by
  have hok : performed.answer = true := by
    rw [← Bool.not_eq_false, h.service.refused_iff]
    decide +kernel
  refine ⟨hok, ?_, ?_, ?_, ?_, ?_⟩
  · have hbefore : (afterWrites false).provider.entryAt? ⟨.global, .primary, "volume"⟩ =
        some ⟨some "7", some "5", none⟩ := by
      decide +kernel
    rw [h.service.entries hok, hbefore, hentry]
  · rw [h.service.counters hok]
    decide +kernel
  · rw [h.counted, if_neg fun hrefused ↦ Bool.false_ne_true (hrefused.2.symm.trans hok)]
    decide +kernel
  · rw [h.store_eq]
    exact (kept_afterWrites false).1
  · rw [h.store_eq]
    exact (kept_afterWrites false).2

theorem volumeLeft_of_refused {w : Write} {performed : Performed Cache Service Bool}
    (h : (afterWrites true).cache.Wrote (afterWrites true).provider w performed) :
    performed.answer = false ∧ VolumeLeft performed ⟨some "7", some "5", none⟩ 2 1 := by
  have hok : performed.answer = false := h.service.refused_iff.mpr (by decide +kernel)
  obtain ⟨htables, hcounters⟩ := h.service.refused hok
  refine ⟨hok, ?_, ?_, ?_, ?_, ?_⟩
  · rw [Service.entryAt?_of_tables htables]
    decide +kernel
  · rw [hcounters]
    decide +kernel
  · rw [h.counted, if_pos ⟨rfl, hok⟩]
    decide +kernel
  · rw [h.store_eq]
    exact (kept_afterWrites true).1
  · rw [h.store_eq]
    exact (kept_afterWrites true).2

/-- A write and a reset go through, and if writes fail they are refused. -/
theorem writes_atomic_afterWrites :
    let put (s : Overlap Service) :=
      s.cache.perform s.provider (.put ⟨"volume", some "9", .primary, none, false⟩)
    let reset (s : Overlap Service) :=
      s.cache.perform s.provider (.reset ⟨.trustedDefaults, none, .primary⟩)
    ((put (afterWrites false)).answer = true ∧
      VolumeLeft (put (afterWrites false)) ⟨some "9", some "5", none⟩ 3 0) ∧
    ((reset (afterWrites false)).answer = true ∧
      VolumeLeft (reset (afterWrites false)) ⟨some "5", some "5", none⟩ 3 0) ∧
    ((put (afterWrites true)).answer = false ∧
      VolumeLeft (put (afterWrites true)) ⟨some "7", some "5", none⟩ 2 1) ∧
    (reset (afterWrites true)).answer = false ∧
      VolumeLeft (reset (afterWrites true)) ⟨some "7", some "5", none⟩ 2 1 := by
  intro put reset
  have run (failing : Bool) : Run (Service.Moves fun _ ↦ True) atStart _ (afterWrites failing) :=
    .snoc (Run.nil.play writtenTwice) (.move _ (.step (.setFault .failWrites failing) trivial))
  obtain ⟨hput, hreset, -⟩ := (run false).writes_atomic rfl
  obtain ⟨hput', hreset', -⟩ := (run true).writes_atomic rfl
  exact ⟨volumeLeft_of_through (hput _) (by decide +kernel),
    volumeLeft_of_through (hreset _) (by decide +kernel),
    volumeLeft_of_refused (hput' _), volumeLeft_of_refused (hreset' _)⟩

end Overlap

end SettingsCache
