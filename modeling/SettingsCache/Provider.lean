import SettingsCache.Cache.Operation
import SettingsCache.Service

/-!
# Providers

A provider answers the remote calls of caches and holds the generation block that they read. It may
take two parts to answer a call: it notes a generation first, and replies at that generation later.
`Cache.perform` carries an operation out against a provider, each call being answered at once.
-/

namespace SettingsCache

/-- The states of a provider. -/
class Provider (σ : Type) where
  /-- Answer a call about a namespace. -/
  serve {verb : Verb} : σ → Namespace → Call verb → verb.Outcome × σ
  /-- Note a generation for a call about a namespace, if the call is one to reply to later. -/
  note? {verb : Verb} : σ → Namespace → Call verb → Option (Generation × σ) := fun _ _ _ ↦ none
  /-- Reply to a call for which a generation was noted. -/
  reply {verb : Verb} : σ → Namespace → Call verb → Generation → verb.Outcome × σ :=
    fun provider ns call _ ↦ serve provider ns call
  /-- What a handle would read from a slot of the block. -/
  view : σ → BlockView
  /-- Let a cache act on the block. -/
  access : σ → Access → σ

/-- Answer a call for which a generation may have been noted. -/
def Provider.answer {σ : Type} [Provider σ] {verb : Verb} (provider : σ) (ns : Namespace)
    (call : Call verb) : Option Generation → verb.Outcome × σ
  | none => serve provider ns call
  | some generation => reply provider ns call generation

/-- Let a cache act on the block several times. -/
def Provider.accessAll {σ : Type} [Provider σ] (provider : σ) (accesses : List Access) : σ :=
  accesses.foldl access provider

/-- The service after an access to its block. -/
def Service.access (s : Service) : Access → Service
  | .read _ _ => { s with block := s.block.countRead }
  | .close handle => { s with block := s.block.markClosed handle }

instance : Provider Service where
  serve s ns call := s.serve ns call
  note? s ns call := s.note? ns call
  reply s ns call generation := s.reply ns call generation
  view s := s.block.view
  access := Service.access

/-- What an operation left behind: the state of whoever carried it out, the provider, and the
answer. -/
structure Performed (γ σ α : Type) where
  state : γ
  provider : σ
  answer : α

namespace Cache

variable {σ : Type} [Provider σ] {kind : Kind}

/-- Carry on an operation that has come some way. -/
def carryOn (c : Cache) (provider : σ) : Progress kind → Performed Cache σ kind.Answer
  | .done answer => ⟨c, provider, answer⟩
  | .calling call pending =>
    let (outcome, provider) := Provider.serve provider c.ns call
    let turn := c.resume pending outcome
    turn.cache.carryOn (Provider.accessAll provider turn.accesses) turn.result
termination_by progress => progress.callsLeft
decreasing_by exact callsLeft_resume_lt ..

/-- Carry an operation out. -/
def perform (c : Cache) (provider : σ) (operation : Operation kind) :
    Performed Cache σ kind.Answer :=
  let turn := c.start (Provider.view provider) operation
  turn.cache.carryOn (Provider.accessAll provider turn.accesses) turn.result

end Cache

end SettingsCache
