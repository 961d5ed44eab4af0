import Mathlib
import SettingsCache.Namespace

/-!
# Table names in any case

A namespace is read by lowering a text by the mapping of Unicode and comparing it with the four
table names. That is no more than to compare them without regard to the case of ASCII letters: the
lower case of every other character has something in it that is in no table name. The Kelvin sign,
whose lower case is a plain k, is let in by no name either, for none has a k. The form of sigma at
the end of a word, which `Text.lower` does not tell apart, is of no account either, as
`ofTableName?_of_lowersTo` says.
-/

namespace SettingsCache

/-! ## Lower case within ASCII and beyond -/

namespace Text

/-- Two characters are the same but for the case of an ASCII letter. -/
def SameButCase (a b : Char) : Prop := a = b ∨ a.isAlpha ∧ b.isAlpha ∧ a.toLower = b.toLower

instance (a b : Char) : Decidable (SameButCase a b) :=
  inferInstanceAs (Decidable (_ ∨ _ ∧ _ ∧ _))

/-- A small letter of ASCII that only letters of ASCII have as their lower case. -/
structure Plain (c : Char) : Prop where
  isAlpha : c.isAlpha
  toLower : c.toLower = c
  ne_k : c ≠ 'k'

theorem lt_of_isAlpha {c : Char} (h : c.isAlpha) : c.toNat < 128 := by
  simp only [Char.isAlpha, Char.isUpper, Char.isLower, Bool.or_eq_true, Bool.and_eq_true,
    decide_eq_true_eq, ge_iff_le, UInt32.le_iff_toNat_le] at h
  change (65 ≤ c.toNat ∧ c.toNat ≤ 90) ∨ (97 ≤ c.toNat ∧ c.toNat ≤ 122) at h
  omega

/-- Within ASCII, the mapping of Unicode lowers the letters from A to Z. -/
theorem lowerChar_of_lt {c : Char} (h : c.toNat < 128) : lowerChar c = [c.toLower] := by
  have hall : ∀ n < 128, lowerChar (Char.ofNat n) = [(Char.ofNat n).toLower] := by decide +kernel
  have hc := hall c.toNat h
  rwa [Char.ofNat_toNat] at hc

/-- Runs beyond ASCII lead to characters beyond ASCII, but for that of the Kelvin sign. -/
theorem beyond_of_mem_lowerRuns : ∀ run ∈ lowerRuns, run.last < 128 ∨
    (run.first = 0x212A ∧ run.last = 0x212A ∧ run.shift = -8383) ∨
    128 ≤ run.first + run.shift := by
  decide +kernel

theorem isAlpha_ofNat_of_le {n : Nat} (h : 128 ≤ n) : (Char.ofNat n).isAlpha = false := by
  rw [← Bool.not_eq_true]
  intro halpha
  have hlt := lt_of_isAlpha halpha
  rw [Char.toNat_ofNat] at hlt
  split at hlt
  · omega
  · next hinvalid =>
    rw [Char.ofNat, dif_neg hinvalid] at halpha
    exact absurd halpha (by decide)

/-- The lower case of a character beyond ASCII has something in it that is no letter of ASCII, or
it has a k in it. -/
theorem exists_mem_lowerChar {c : Char} (h : 128 ≤ c.toNat) :
    ∃ d ∈ lowerChar c, d.isAlpha = false ∨ d = 'k' := by
  unfold lowerChar
  split
  · exact ⟨Char.ofNat 0x307, List.mem_cons_of_mem _ (List.mem_singleton.mpr rfl), .inl (by decide)⟩
  · split
    · next run hrun =>
      have hcovers := List.find?_some hrun
      simp only [LowerRun.covers, Bool.and_eq_true, decide_eq_true_eq] at hcovers
      obtain ⟨⟨hfirst, hlast⟩, -⟩ := hcovers
      refine ⟨_, List.mem_singleton.mpr rfl, ?_⟩
      rcases beyond_of_mem_lowerRuns run (List.mem_of_find?_eq_some hrun) with
        hlow | ⟨hfirst', hlast', hshift⟩ | hbeyond
      · omega
      · have hkelvin : c.toNat = 0x212A := by omega
        rw [hkelvin, hshift]
        exact .inr rfl
      · exact .inl (isAlpha_ofNat_of_le (by omega))
    · refine ⟨c, List.mem_singleton.mpr rfl, .inl ?_⟩
      rw [← Bool.not_eq_true]
      exact fun halpha ↦ Nat.not_lt.mpr h (lt_of_isAlpha halpha)

/-- A character has a plain letter as its lower case within ASCII just if it is that letter in
either case. -/
theorem Plain.toLower_eq_iff {c l : Char} (hl : Plain l) : c.toLower = l ↔ SameButCase c l := by
  constructor
  · intro heq
    have halpha : c.isAlpha := by rw [← Char.isAlpha_toLower_eq_isAlpha, heq, hl.isAlpha]
    exact .inr ⟨halpha, hl.isAlpha, heq.trans hl.toLower.symm⟩
  · rintro (rfl | ⟨-, -, heq⟩)
    · exact hl.toLower
    · exact heq.trans hl.toLower

/-- A character that is a plain letter in either case is of ASCII. -/
theorem Plain.lt_of_sameButCase {c l : Char} (hl : Plain l) (h : SameButCase c l) :
    c.toNat < 128 := by
  rcases h with rfl | ⟨halpha, -, -⟩
  · exact lt_of_isAlpha hl.isAlpha
  · exact lt_of_isAlpha halpha

/-- A text has a word of plain letters as its lower case just if it is that word, letter by letter,
but for the case. -/
theorem lower_eq_iff (text : List Char) {word : List Char} (hword : ∀ l ∈ word, Plain l) :
    lower text = word ↔ List.Forall₂ SameButCase text word := by
  induction text generalizing word with
  | nil => cases word <;> simp [lower]
  | cons c rest ih =>
    by_cases hc : c.toNat < 128
    · rw [lower, List.flatMap_cons, lowerChar_of_lt hc]
      change c.toLower :: lower rest = word ↔ _
      cases word with
      | nil => simp
      | cons l word =>
        have hl := hword l (List.mem_cons_self ..)
        rw [List.cons_eq_cons, List.forall₂_cons, hl.toLower_eq_iff,
          ih fun l hmem ↦ hword l (List.mem_cons_of_mem _ hmem)]
    · -- Something in the lower case of the character is in no word of plain letters.
      refine iff_of_false ?_ ?_
      · rintro rfl
        obtain ⟨d, hd, hbeyond⟩ := exists_mem_lowerChar (Nat.le_of_not_lt hc)
        have hplain : Plain d := hword d (List.mem_flatMap.mpr ⟨c, List.mem_cons_self .., hd⟩)
        rcases hbeyond with halpha | hk
        · exact absurd hplain.isAlpha (halpha ▸ Bool.false_ne_true)
        · exact hplain.ne_k hk
      · intro hsame
        cases hsame with
        | cons hhead _ => exact hc ((hword _ (List.mem_cons_self ..)).lt_of_sameButCase hhead)

/-- A text and its lower case, with any sigma in either of its two forms. The mapping of Unicode
tells the two apart by the word that the sigma stands in. -/
inductive LowersTo : List Char → List Char → Prop
  | nil : LowersTo [] []
  | cons {c : Char} {rest lowered : List Char} (h : LowersTo rest lowered) :
      LowersTo (c :: rest) (lowerChar c ++ lowered)
  | final {rest lowered : List Char} (h : LowersTo rest lowered) :
      LowersTo ('Σ' :: rest) ('ς' :: lowered)

/-- Whether a text is a word of plain letters in lower case is not up to the forms of its sigmas. -/
theorem LowersTo.eq_iff {text lowered word : List Char} (h : LowersTo text lowered)
    (hword : ∀ l ∈ word, Plain l) : lowered = word ↔ lower text = word := by
  induction h generalizing word with
  | nil => exact Iff.rfl
  | @cons c rest lowered _ ih =>
    rw [lower, List.flatMap_cons]
    constructor <;> rintro rfl
    · have hrest := (ih fun l hl ↦ hword l (List.mem_append_right _ hl)).mp rfl
      exact congrArg _ hrest
    · have hrest := (ih fun l hl ↦ hword l (List.mem_append_right _ hl)).mpr rfl
      exact congrArg _ hrest
  | final =>
    have hsigma (form : Char) (hform : form.isAlpha = false) : ¬ Plain form :=
      fun hplain ↦ absurd hplain.isAlpha (hform ▸ Bool.false_ne_true)
    refine iff_of_false ?_ ?_ <;> rintro rfl
    · exact hsigma 'ς' (by decide) (hword _ (List.mem_cons_self ..))
    · exact hsigma 'σ' (by decide) (hword _ (List.mem_cons_self ..))

end Text

/-! ## Namespaces -/

namespace Namespace

open Text

/-- A text is the table name of a namespace up to the case of ASCII letters: it has as many
characters, and each is the one at its place in the name but for the case. -/
def NamedBy (ns : Namespace) (text : String) : Prop :=
  text.length = ns.tableName.length ∧
    ∀ pair ∈ text.toList.zip ns.tableName.toList, SameButCase pair.1 pair.2

instance (ns : Namespace) (text : String) : Decidable (ns.NamedBy text) :=
  inferInstanceAs (Decidable (_ ∧ ∀ pair ∈ text.toList.zip ns.tableName.toList, _))

theorem plain_tableName (ns : Namespace) : ∀ l ∈ ns.tableName.toList, Plain l := by
  have hall : ns.tableName.toList.all (fun l ↦ l.isAlpha && l.toLower == l && l != 'k') := by
    cases ns <;> decide
  intro l hl
  have hplain := List.all_eq_true.mp hall l hl
  simp only [Bool.and_eq_true, beq_iff_eq, bne_iff_ne] at hplain
  exact ⟨hplain.1.1, hplain.1.2, hplain.2⟩

/-- A text has a table name as its lower case just if it is that name up to the case of ASCII
letters. -/
theorem lower_eq_tableName_iff (text : String) (ns : Namespace) :
    ns.tableName = String.ofList (lower text.toList) ↔ ns.NamedBy text := by
  rw [String.ext_iff, String.toList_ofList, eq_comm, lower_eq_iff _ ns.plain_tableName,
    List.forall₂_iff_zip, NamedBy, String.length_toList, String.length_toList]
  simp only [Prod.forall]

theorem tableName_injective {ns other : Namespace} (h : ns.tableName = other.tableName) :
    ns = other := by
  revert h
  cases ns <;> cases other <;> decide

theorem mem_all (ns : Namespace) : ns ∈ all := by cases ns <;> decide

theorem tableName_of_ofTableName? {name : String} {ns : Namespace}
    (h : ofTableName? name = some ns) : ns.tableName = name := by
  unfold ofTableName? at h
  have hname := List.find?_some h
  exact beq_iff_eq.mp hname

/-- An exactly written name is that of one namespace at most. -/
theorem ofTableName?_eq_some_iff (name : String) (ns : Namespace) :
    ofTableName? name = some ns ↔ ns.tableName = name := by
  refine ⟨tableName_of_ofTableName?, ?_⟩
  rintro rfl
  obtain ⟨found, hfound⟩ : ∃ found, ofTableName? ns.tableName = some found :=
    Option.isSome_iff_exists.mp
      (List.find?_isSome.mpr ⟨ns, ns.mem_all, beq_self_eq_true ns.tableName⟩)
  rw [hfound, tableName_injective (tableName_of_ofTableName? hfound)]

/-- The forms of sigma in a text in lower case have no bearing on the namespace that it names. -/
theorem ofTableName?_of_lowersTo {text lowered : List Char} (h : LowersTo text lowered) :
    ofTableName? (String.ofList lowered) = ofTableName? (String.ofList (lower text)) := by
  refine Option.ext fun ns ↦ ?_
  rw [ofTableName?_eq_some_iff, ofTableName?_eq_some_iff, String.ext_iff, String.ext_iff,
    String.toList_ofList, String.toList_ofList, eq_comm, h.eq_iff ns.plain_tableName, eq_comm]

theorem parse_eq_ok_iff (text : String) (ns : Namespace) :
    parse text = .ok ns ↔ ns.NamedBy text := by
  rw [← lower_eq_tableName_iff, ← ofTableName?_eq_some_iff, parse]
  cases ofTableName? (String.ofList (lower text.toList)) <;> simp

/-- A text is read as a namespace just if it is the name of its table up to the case of ASCII
letters, every other text is refused and told unchanged, and the name of a table is read as its
namespace. -/
theorem parse_exact (text : String) :
    (∀ ns, parse text = .ok ns ↔ ns.NamedBy text) ∧
      (parse text = .error ⟨text⟩ ↔ ∀ ns : Namespace, ¬ ns.NamedBy text) ∧
      ∀ ns : Namespace, parse ns.tableName = .ok ns := by
  refine ⟨parse_eq_ok_iff text, ?_, ?_⟩
  · simp only [← parse_eq_ok_iff]
    rw [parse]
    cases ofTableName? (String.ofList (lower text.toList)) <;> simp
  · intro ns
    rw [parse_eq_ok_iff, ← lower_eq_tableName_iff, String.ext_iff, String.toList_ofList, eq_comm,
      lower_eq_iff _ ns.plain_tableName]
    exact List.forall₂_same.mpr fun l _ ↦ .inl rfl

/-- Dotted capital I and the long s have an i and an s as their counterparts, but not in a table
name. -/
example : parse "CONF\u0130G" = .error ⟨"CONF\u0130G"⟩ ∧
    parse "\u017fystem" = .error ⟨"\u017fystem"⟩ ∧ parse "SyStEm" = .ok .system := by
  decide +kernel

end Namespace

end SettingsCache
