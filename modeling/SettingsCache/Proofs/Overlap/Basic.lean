import SettingsCache.Provider

/-!
# Overlapping operations

Operations on one cache may overlap: while the call of an operation is out, other operations of the
cache have turns of their own, the calls of others are answered, and the provider changes by
itself. A call is answered in one moment, or in two: the provider notes a generation for it, and
replies at that generation later. `Step` says what may happen next, and a `Run` is any order of such
steps together with a log of them. Nothing is assumed of the provider or of the order.

Moments are numbered from zero. An operation is known by the moment at which it began.
-/

namespace SettingsCache

/-- An operation whose call is out. -/
structure Outstanding where
  {kind : Kind}
  operation : Operation kind
  /-- The moment at which the operation began. -/
  since : Nat
  {verb : Verb}
  call : Call verb
  pending : Pending verb kind
  /-- The generation that the provider has noted for the call, if it has begun to answer it. -/
  noted : Option Generation
  /-- What the call came to, once the provider has answered it. -/
  outcome : Option verb.Outcome

/-- What an operation leaves outstanding after a turn. -/
def Progress.outstanding {kind : Kind} (operation : Operation kind) (since : Nat) :
    Progress kind → List Outstanding
  | .done _ => []
  | .calling call pending => [⟨operation, since, call, pending, none, none⟩]

/-- What happens at a moment. -/
inductive Deed where
  /-- An operation begins with a turn of the cache. -/
  | began {kind : Kind} (operation : Operation kind) (view : BlockView)
      (turn : Turn (Progress kind))
  /-- The provider notes a generation for a call. -/
  | noted {verb : Verb} (call : Call verb) (generation : Generation)
  /-- The provider answers a call. -/
  | answered {verb : Verb} (call : Call verb) (outcome : verb.Outcome)
  /-- An operation that began earlier goes on with a turn of the cache. -/
  | resumed {verb : Verb} {kind : Kind} (operation : Operation kind) (since : Nat)
      (pending : Pending verb kind) (outcome : verb.Outcome) (turn : Turn (Progress kind))
  /-- The cache gives up its tracker and its values. -/
  | cleared (turn : Turn Unit)
  /-- The provider changes by itself. -/
  | moved

namespace Deed

/-- What the cache does to the block. -/
def accesses : Deed → List Access
  | .began _ _ turn => turn.accesses
  | .resumed _ _ _ _ turn => turn.accesses
  | .cleared turn => turn.accesses
  | .noted _ _ | .answered _ _ | .moved => []

/-- The deed of a moment ends an operation that began at a moment, with an answer. -/
inductive Ends (now : Nat) : {kind : Kind} → Deed → Operation kind → Nat → kind.Answer → Prop
  /-- The first turn of the operation is its last. -/
  | atOnce {kind : Kind} {operation : Operation kind} {view : BlockView}
      {turn : Turn (Progress kind)} {answer : kind.Answer} (h : turn.result = .done answer) :
      Ends now (.began operation view turn) operation now answer
  /-- The operation ends once a call of it has been answered. -/
  | afterCall {verb : Verb} {kind : Kind} {operation : Operation kind} {since : Nat}
      {pending : Pending verb kind} {outcome : verb.Outcome} {turn : Turn (Progress kind)}
      {answer : kind.Answer} (h : turn.result = .done answer) :
      Ends now (.resumed operation since pending outcome turn) operation since answer

end Deed

/-- A cache, the provider that it calls, and the operations whose calls are out. -/
structure Overlap (σ : Type) where
  cache : Cache
  provider : σ
  outstanding : List Outstanding

/-- A moment of a run: how things stood, and what happened then. -/
structure Moment (σ : Type) where
  before : Overlap σ
  deed : Deed

/-- What a list says of a place does not change as the list grows. -/
theorem getElem?_append_of_some {α : Type} {l : List α} {n : Nat} {a : α} (h : l[n]? = some a)
    (later : List α) : (l ++ later)[n]? = some a := by
  obtain ⟨hn, -⟩ := List.getElem?_eq_some_iff.mp h
  rw [List.getElem?_append_left hn, h]

/-- What the beginning of a list says of a place, the list says of it. -/
theorem getElem?_of_take {α : Type} {l : List α} {n i : Nat} {a : α}
    (h : (l.take n)[i]? = some a) : i < n ∧ l[i]? = some a := by
  rw [List.getElem?_take] at h
  split at h
  · next hi => exact ⟨hi, h⟩
  · cases h

theorem mem_of_eq_append_cons {α : Type} {l before after : List α} {a : α}
    (h : l = before ++ a :: after) : a ∈ l := by
  rw [h]
  exact List.mem_append_right before (List.mem_cons_self ..)

namespace Overlap

variable {σ : Type}

/-- A cache that has kept nothing yet, with no operation on its way. -/
structure Fresh (s : Overlap σ) : Prop where
  store : s.cache.store = {}
  outstanding : s.outstanding = []

variable [Provider σ]

/-- Bring a turn of the cache into effect. -/
def settle {α : Type} (s : Overlap σ) (turn : Turn α) (outstanding : List Outstanding) :
    Overlap σ :=
  ⟨turn.cache, Provider.accessAll s.provider turn.accesses, outstanding⟩

/-- What can happen next. The provider may change by itself as `moves` says. -/
inductive Step (moves : σ → σ → Prop) (now : Nat) : Overlap σ → Deed → Overlap σ → Prop
  /-- An operation begins. -/
  | begin (s : Overlap σ) {kind : Kind} (operation : Operation kind)
      {turn : Turn (Progress kind)}
      (hturn : turn = s.cache.start (Provider.view s.provider) operation) :
      Step moves now s (.began operation (Provider.view s.provider) turn)
        (s.settle turn (s.outstanding ++ turn.result.outstanding operation now))
  /-- The provider notes a generation for a call that is out. -/
  | note (s : Overlap σ) {kind : Kind} {verb : Verb} {operation : Operation kind} {since : Nat}
      {call : Call verb} {pending : Pending verb kind} {generation : Generation} {provider : σ}
      {before after : List Outstanding}
      (hout : s.outstanding = before ++ ⟨operation, since, call, pending, none, none⟩ :: after)
      (hnote : Provider.note? s.provider s.cache.ns call = some (generation, provider)) :
      Step moves now s (.noted call generation)
        ⟨s.cache, provider,
          before ++ ⟨operation, since, call, pending, some generation, none⟩ :: after⟩
  /-- The provider answers a call that is out. -/
  | answer (s : Overlap σ) {kind : Kind} {verb : Verb} {operation : Operation kind} {since : Nat}
      {call : Call verb} {pending : Pending verb kind} {noted : Option Generation}
      {outcome : verb.Outcome} {before after : List Outstanding}
      (hout : s.outstanding = before ++ ⟨operation, since, call, pending, noted, none⟩ :: after)
      (hanswer : outcome = (Provider.answer s.provider s.cache.ns call noted).1) :
      Step moves now s (.answered call outcome)
        ⟨s.cache, (Provider.answer s.provider s.cache.ns call noted).2,
          before ++ ⟨operation, since, call, pending, noted, some outcome⟩ :: after⟩
  /-- An operation is given what its call came to. -/
  | resume (s : Overlap σ) {kind : Kind} {verb : Verb} {operation : Operation kind} {since : Nat}
      {call : Call verb} {pending : Pending verb kind} {noted : Option Generation}
      {outcome : verb.Outcome} {turn : Turn (Progress kind)} {before after : List Outstanding}
      (hout : s.outstanding =
        before ++ ⟨operation, since, call, pending, noted, some outcome⟩ :: after)
      (hturn : turn = s.cache.resume pending outcome) :
      Step moves now s (.resumed operation since pending outcome turn)
        (s.settle turn (before ++ turn.result.outstanding operation since ++ after))
  /-- The cache gives up its tracker and its values. -/
  | clear (s : Overlap σ) :
      Step moves now s (.cleared s.cache.clear) (s.settle s.cache.clear s.outstanding)
  /-- The provider changes by itself. -/
  | move (s : Overlap σ) {provider : σ} (hmove : moves s.provider provider) :
      Step moves now s .moved { s with provider := provider }

/-- What can happen from a beginning on, with the log of it, oldest first. -/
inductive Run (moves : σ → σ → Prop) (start : Overlap σ) : List (Moment σ) → Overlap σ → Prop
  | nil : Run moves start [] start
  | snoc {log : List (Moment σ)} {s s' : Overlap σ} {deed : Deed}
      (run : Run moves start log s) (step : Step moves log.length s deed s') :
      Run moves start (log ++ [⟨s, deed⟩]) s'

variable {moves : σ → σ → Prop} {start s : Overlap σ} {log : List (Moment σ)}

/-- What led up to a moment of a run, and what the moment did. -/
theorem Run.at {n : Nat} {m : Moment σ} (run : Run moves start log s) (hm : log[n]? = some m) :
    Run moves start (log.take n) m.before ∧ ∃ s', Step moves n m.before m.deed s' := by
  induction run with
  | nil => exact absurd hm.symm (by simp)
  | @snoc log s s' deed run step ih =>
    by_cases hn : n < log.length
    · rw [List.getElem?_append_left hn] at hm
      rw [List.take_append_of_le_length (Nat.le_of_lt hn)]
      exact ih hm
    · have hlen : n = log.length := by
        obtain ⟨hn', -⟩ := List.getElem?_eq_some_iff.mp hm
        rw [List.length_append, List.length_singleton] at hn'
        omega
      subst hlen
      rw [List.getElem?_concat_length, Option.some.injEq] at hm
      subst hm
      rw [List.take_left']
      · exact ⟨run, s', step⟩
      · rfl

/-- A run goes on to be one if the provider may change in more ways. -/
theorem Run.imp {moves' : σ → σ → Prop} (run : Run moves start log s)
    (h : ∀ p p', moves p p' → moves' p p') : Run moves' start log s := by
  induction run with
  | nil => exact .nil
  | snoc run step ih =>
    apply ih.snoc
    cases step with
    | begin operation hturn => exact .begin _ operation hturn
    | note hout hnote => exact .note _ hout hnote
    | answer hout hanswer => exact .answer _ hout hanswer
    | resume hout hturn => exact .resume _ hout hturn
    | clear => exact .clear _
    | move hmove => exact .move _ (h _ _ hmove)

/-- The states of the provider from the first moment of a run to the present. -/
def providers (log : List (Moment σ)) (s : Overlap σ) : List σ :=
  log.map (·.before.provider) ++ [s.provider]

end Overlap

end SettingsCache
