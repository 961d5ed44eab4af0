import Mathlib.Control.Monad.Basic
import SettingsCache.Client.Typed
import SettingsCache.Proofs.Numeral.Integers
import SettingsCache.Proofs.Session.Exchanges

/-!
# Typed reads

A strict read of an integer tells apart a text that denotes an integer of the type, any other text,
a setting without a text, and a lookup that failed. A lenient read gives the integer in the first
case and the default in the others, and a truth value is read from the integer. All of them do what
the one lookup does.
-/

namespace SettingsCache.Client

open Numeral

variable {σ : Type} [Provider σ] (client : Client) (provider : σ) (ns : Namespace) (name : String)
  (user : UserId)

/-! ## Lookups -/

/-- A lookup is answered with a value, or with that there is none. -/
def Answers (value : Option String) : Prop :=
  ∃ reading, (client.perform provider (lookup ns name user)).answer = .ok reading ∧
    reading.value = value

/-- What passes between a client and a provider while an action is carried out. -/
def exchanges {α : Type} (action : Action α) : List Exchange :=
  (client.perform ({ provider := provider } : Transcribed σ) action).provider.exchanges

/-- A lookup tries every way of reading that is enabled, and each fails. -/
def Unanswered (e : RemoteError) : Prop :=
  EveryPathFailed (client.cache ns).ns name (client.cache ns).config.paths
    (client.exchanges provider (lookup ns name user)) e

variable {client provider ns name user}

theorem Answers.unique {value value' : Option String}
    (h : client.Answers provider ns name user value)
    (h' : client.Answers provider ns name user value') : value = value' := by
  obtain ⟨reading, hanswer, rfl⟩ := h
  obtain ⟨reading', hanswer', rfl⟩ := h'
  rw [hanswer] at hanswer'
  cases hanswer'
  rfl

variable (provider name user) in
/-- A lookup of a valid client is answered, or every way of reading fails. -/
theorem lookup_cases (hvalid : (client.cache ns).config.validate = .ok ()) :
    (∃ reading, (client.perform provider (lookup ns name user)).answer = .ok reading ∧
      ∀ e, ¬ client.Unanswered provider ns name user e) ∨
    ∃ e, (client.perform provider (lookup ns name user)).answer = .error (.remote e) ∧
      ∀ e', client.Unanswered provider ns name user e' ↔ e' = e := by
  have hfails (e : RemoteError) := (client.cache ns).lookup_eq_error_iff hvalid provider name user e
  have hanswer : (client.perform provider (lookup ns name user)).answer =
      ((client.cache ns).perform provider (.lookup name user)).answer.mapError .remote := rfl
  rw [hanswer]
  cases hlooked : ((client.cache ns).perform provider (.lookup name user)).answer with
  | ok reading =>
    refine .inl ⟨reading, rfl, fun e he ↦ ?_⟩
    have herror := (hfails e).mpr he
    rw [hlooked] at herror
    cases herror
  | error e =>
    refine .inr ⟨e, rfl, fun e' ↦ (hfails e').symm.trans ?_⟩
    rw [hlooked, Except.error.injEq, eq_comm]

/-! ## Numbers -/

/-- The strict read of a number of a type. -/
abbrev strictly (α : Type) [SettingNumber α] (ns : Namespace) (name : String) (user : UserId) :
    Action (Except Error α) := strictNumber ns name user

/-- A strict read of a text goes by what is read as a number. -/
theorem answer_strictly {α : Type} [SettingNumber α] {text : String}
    (hanswers : client.Answers provider ns name user (some text)) :
    (client.perform provider (strictly α ns name user)).answer =
      (SettingNumber.read text).mapError fun reason ↦
        .setting (.invalidNumber name text reason) := by
  obtain ⟨reading, hlookup, hvalue⟩ := hanswers
  have hanswer : (client.perform provider (strictly α ns name user)).answer =
      (client.perform provider (lookup ns name user)).answer.bind (numberOf ns name) := rfl
  rw [hanswer, hlookup]
  dsimp only [Except.bind, numberOf]
  rw [hvalue]

/-- How a strict read comes out, for a type whose numbers are denoted as told. It tells four cases
apart. -/
structure ReadsStrictly {α : Type} [SettingNumber α] (Denotes : String → α → Prop)
    (client : Client) (provider : σ) (ns : Namespace) (name : String) (user : UserId) : Prop where
  number_iff : ∀ n, (client.perform provider (strictly α ns name user)).answer = .ok n ↔
    ∃ text, client.Answers provider ns name user (some text) ∧ Denotes text n
  notFound_iff : (client.perform provider (strictly α ns name user)).answer =
    .error (.setting (.notFound ns name)) ↔ client.Answers provider ns name user none
  invalid_iff : ∀ text, (∃ reason, (client.perform provider (strictly α ns name user)).answer =
      .error (.setting (.invalidNumber name text reason))) ↔
    client.Answers provider ns name user (some text) ∧ ∀ n, ¬ Denotes text n
  remote_iff : ∀ e, (client.perform provider (strictly α ns name user)).answer =
    .error (.remote e) ↔ client.Unanswered provider ns name user e

/-- A strict read goes by what is read as a number. -/
theorem reads_strictly {α : Type} [SettingNumber α] {Denotes : String → α → Prop}
    (hread : ∀ text n, SettingNumber.read text = .ok n ↔ Denotes text n)
    (hvalid : (client.cache ns).config.validate = .ok ()) :
    ReadsStrictly Denotes client provider ns name user := by
  have hanswer : (client.perform provider (strictly α ns name user)).answer =
      (client.perform provider (lookup ns name user)).answer.bind (numberOf ns name) := rfl
  rcases lookup_cases provider name user hvalid with
    ⟨reading, hlookup, hanswered⟩ | ⟨e, hlookup, hfailed⟩
  · have hiff (value : Option String) :
        client.Answers provider ns name user value ↔ reading.value = value := by
      constructor
      · exact fun h ↦ Answers.unique ⟨reading, hlookup, rfl⟩ h
      · exact fun h ↦ ⟨reading, hlookup, h⟩
    rw [hlookup] at hanswer
    cases hvalue : reading.value with
    | none =>
      have hstrict : (client.perform provider (strictly α ns name user)).answer =
          .error (.setting (.notFound ns name)) := by
        rw [hanswer]
        dsimp only [Except.bind, numberOf]
        rw [hvalue]
      constructor <;> simp [hstrict, hiff, hvalue, hanswered]
    | some text =>
      have hstrict : (client.perform provider (strictly α ns name user)).answer = _ :=
        answer_strictly ((hiff (some text)).mpr hvalue)
      cases hnumber : (SettingNumber.read text : Except String α) <;>
        rw [hnumber, Except.mapError] at hstrict <;>
        constructor <;> simp [hstrict, hiff, hvalue, hanswered, ← hread, hnumber]
  · have hnone (value : Option String) : ¬ client.Answers provider ns name user value := by
      rintro ⟨reading, hok, -⟩
      rw [hlookup] at hok
      cases hok
    have hstrict : (client.perform provider (strictly α ns name user)).answer =
        .error (.remote e) := by
      rw [hanswer, hlookup]
      rfl
    constructor <;> simp [hstrict, hnone, hfailed, eq_comm]

/-- A read with a default goes by a strict read: it makes the same of the same number and gives the
default for any error, and it leaves the same behind. -/
structure GoesBy {α β : Type} (client : Client) (provider : σ) (lenient : β → Action β)
    (strict : Action (Except Error α)) (f : α → β) : Prop where
  answer : ∀ default, (client.perform provider (lenient default)).answer =
    match (client.perform provider strict).answer with
    | .ok n => f n
    | .error _ => default
  left : ∀ default, (client.perform provider (lenient default)).state =
      (client.perform provider strict).state ∧
    (client.perform provider (lenient default)).provider =
      (client.perform provider strict).provider
  exchanges : ∀ default, client.exchanges provider (lenient default) =
    client.exchanges provider strict

theorem number_goesBy {α : Type} [SettingNumber α] :
    client.GoesBy provider (number ns name user) (strictly α ns name user) id := by
  refine ⟨fun default ↦ ?_, fun _ ↦ ⟨rfl, rfl⟩, fun _ ↦ rfl⟩
  -- Both make something of the outcome of one lookup.
  let outcome := ((client.cache ns).perform provider (.lookup name user)).answer
  have hlenient : (client.perform provider (number ns name user default)).answer =
      (number ns name user default).finish outcome := rfl
  have hstrict : (client.perform provider (strictly α ns name user)).answer =
      (strictly α ns name user).finish outcome := rfl
  rw [hlenient, hstrict]
  rcases outcome with e | ⟨_ | text, _, _⟩
  · rfl
  · rfl
  · dsimp only [number, Client.text, strictly, strictNumber, lookup, Action.map, Except.mapError,
      Except.bind, numberOf, Option.map_some]
    cases (SettingNumber.read text : Except String α) <;> rfl

/-- A truth value is read from an integer, and its default stands for one. -/
theorem flag_goesBy :
    client.GoesBy provider (flag ns name user) (strictly Int32 ns name user) (· != 0) := by
  have hnumber : client.GoesBy provider (number ns name user) (strictly Int32 ns name user) id :=
    number_goesBy
  refine ⟨fun default ↦ ?_, fun default ↦ hnumber.left (flagNumber default),
    fun default ↦ hnumber.exchanges (flagNumber default)⟩
  have hflag : (client.perform provider (flag ns name user default)).answer =
      ((client.perform provider (number ns name user (flagNumber default))).answer != 0) := rfl
  rw [hflag, hnumber.answer]
  cases (client.perform provider (strictly Int32 ns name user)).answer with
  | ok n => rfl
  | error e => cases default <;> rfl

/-! ## Integers -/

/-- A text denotes a 32-bit integer. -/
def DenotesInt32 (text : String) (n : Int32) : Prop := DenotesInteger text.toList n.toInt

/-- A text denotes a 64-bit integer. -/
def DenotesInt64 (text : String) (n : Int64) : Prop := DenotesInteger text.toList n.toInt

theorem mapError_eq_ok_iff {ε ε' β : Type} {x : Except ε β} {f : ε → ε'} {b : β} :
    x.mapError f = .ok b ↔ x = .ok b := by
  cases x with
  | error e => exact iff_of_false (nomatch ·) (nomatch ·)
  | ok a => exact (Except.ok.injEq a b).to_iff.trans (Except.ok.injEq a b).to_iff.symm

/-- Strict and lenient reads of integers and of truth values classify every stored text alike,
whatever provider there is and whatever the caches hold. -/
theorem integer_reads_classify (client : Client) (provider : σ) (ns : Namespace) (name : String)
    (user : UserId) (hvalid : (client.cache ns).config.validate = .ok ()) :
    ReadsStrictly DenotesInt32 client provider ns name user ∧
    ReadsStrictly DenotesInt64 client provider ns name user ∧
    client.GoesBy provider (number ns name user) (strictly Int32 ns name user) id ∧
    client.GoesBy provider (number ns name user) (strictly Int64 ns name user) id ∧
    client.GoesBy provider (flag ns name user) (strictly Int32 ns name user) (· != 0) ∧
    ∀ n, (client.perform provider (strictly Int32 ns name user)).answer = .ok n →
      (client.perform provider (strictly Int64 ns name user)).answer = .ok n.toInt64 := by
  have hint32 : ReadsStrictly DenotesInt32 client provider ns name user :=
    reads_strictly (fun _ _ ↦ mapError_eq_ok_iff.trans readInt32_eq_ok_iff) hvalid
  have hint64 : ReadsStrictly DenotesInt64 client provider ns name user :=
    reads_strictly (fun _ _ ↦ mapError_eq_ok_iff.trans readInt64_eq_ok_iff) hvalid
  refine ⟨hint32, hint64, number_goesBy, number_goesBy, flag_goesBy, fun n hn ↦ ?_⟩
  obtain ⟨text, hanswers, hdenotes⟩ := (hint32.number_iff n).mp hn
  refine (hint64.number_iff n.toInt64).mpr ⟨text, hanswers, ?_⟩
  rw [DenotesInt64, Int32.toInt_toInt64]
  exact hdenotes

/-- The first number past the 32-bit integers is no number for one width and one for the other. -/
theorem integer_reads_classify_pastInt32 :
    let client := unchecked .primary {}
    let service := Service.seeded.insert .global .primary "size" (some "2147483648")
    (client.cache .global).config.validate = .ok () ∧
      (∃ reason, (client.perform service (strictly Int32 .global "size" .primary)).answer =
        .error (.setting (.invalidNumber "size" "2147483648" reason))) ∧
      (client.perform service (strictly Int64 .global "size" .primary)).answer =
        .ok 2147483648 ∧
      (client.perform service (number .global "size" .primary (7 : Int64))).answer =
        2147483648 ∧
      (client.perform service (flag .global "size" .primary true)).answer = true := by
  intro client service
  have hvalid : (client.cache .global).config.validate = .ok () := rfl
  have hanswers : client.Answers service .global "size" .primary (some "2147483648") :=
    ⟨⟨some "2147483648", .fastPath, some 3⟩, by decide +kernel, rfl⟩
  have hlong : DenotesInt64 "2147483648" 2147483648 :=
    readInt64_eq_ok_iff.mp (by decide +kernel)
  obtain ⟨hint32, hint64, -, hlenient, hflag, -⟩ :=
    integer_reads_classify client service .global "size" .primary hvalid
  have hinvalid := (hint32.invalid_iff "2147483648").mpr ⟨hanswers, fun n hn ↦ by
    have hsize := hn.unique hlong
    have hlt := n.toInt_lt
    rw [hsize] at hlt
    exact absurd hlt (by decide)⟩
  have hvalue := (hint64.number_iff 2147483648).mpr ⟨_, hanswers, hlong⟩
  refine ⟨hvalid, hinvalid, hvalue, ?_, ?_⟩
  · rw [hlenient.answer, hvalue]
    rfl
  · obtain ⟨reason, hinvalid⟩ := hinvalid
    rw [hflag.answer, hinvalid]

end SettingsCache.Client
