import Mathlib.Algebra.Group.Nat.Defs
import SettingsCache.Proofs.Counter
import SettingsCache.Proofs.Service.Change

/-!
# Histories of the service

A history lists the states of the service one after another. The counter of a namespace wraps around
after 2 ^ 32 bumps; in a history with fewer, a counter that stands where it once stood has not moved
in between, and then the entries of the namespace have not changed either.
-/

namespace SettingsCache.Service

/-- The number of times that the counter of a namespace moves in a history. -/
def bumps (ns : Namespace) : List Service → Nat
  | s :: t :: rest =>
    (if t.generation ns = s.generation ns then 0 else 1) + bumps ns (t :: rest)
  | [_] | [] => 0

/-- Each change in a history ticks. -/
def Ticking (ns : Namespace) (history : List Service) : Prop :=
  ∀ n s t, history[n]? = some s → history[n + 1]? = some t → Ticks ns s t

variable {ns : Namespace} {s t : Service} {history rest : List Service}

theorem Ticking.tail (h : Ticking ns (s :: rest)) : Ticking ns rest :=
  fun n t u ht hu ↦ h (n + 1) t u ht hu

theorem Ticking.head (h : Ticking ns (s :: t :: rest)) : Ticks ns s t := h 0 s t rfl rfl

theorem Ticking.drop (h : Ticking ns history) (n : Nat) : Ticking ns (history.drop n) := by
  intro i s t hs ht
  rw [List.getElem?_drop] at hs ht
  exact h (n + i) s t hs ht

/-- A history that goes on by a tick ticks. -/
theorem Ticking.concat (h : Ticking ns history)
    (hlast : ∀ s, history.getLast? = some s → Ticks ns s t) : Ticking ns (history ++ [t]) := by
  intro n s u hs hu
  obtain ⟨hlt, -⟩ := List.getElem?_eq_some_iff.mp hu
  rw [List.length_append, List.length_singleton] at hlt
  rw [List.getElem?_append_left (by omega)] at hs
  by_cases hn : n + 1 < history.length
  · rw [List.getElem?_append_left hn] at hu
    exact h n s u hs hu
  · have hlen : n + 1 = history.length := by omega
    rw [hlen, List.getElem?_concat_length, Option.some.injEq] at hu
    rw [← hu]
    apply hlast
    rw [List.getLast?_eq_getElem?, ← hlen]
    exact hs

theorem bumps_tail_le (ns : Namespace) (s : Service) (rest : List Service) :
    bumps ns rest ≤ bumps ns (s :: rest) := by
  cases rest with
  | nil => exact Nat.le_refl 0
  | cons t rest => exact Nat.le_add_left ..

theorem bumps_drop_le (ns : Namespace) (history : List Service) (n : Nat) :
    bumps ns (history.drop n) ≤ bumps ns history := by
  induction n generalizing history with
  | zero => exact Nat.le_refl _
  | succ n ih =>
    cases history with
    | nil => exact Nat.le_refl _
    | cons s rest => exact Nat.le_trans (ih rest) (bumps_tail_le ns s rest)

theorem bumps_take_le (ns : Namespace) (history : List Service) (n : Nat) :
    bumps ns (history.take n) ≤ bumps ns history := by
  induction history generalizing n with
  | nil => exact Nat.le_of_eq (by rw [List.take_nil])
  | cons s rest ih =>
    cases n with
    | zero => exact Nat.zero_le _
    | succ n =>
      cases rest with
      | nil => exact Nat.le_of_eq (by rw [List.take_succ_cons, List.take_nil])
      | cons t rest =>
        cases n with
        | zero => exact Nat.zero_le _
        | succ n => exact Nat.add_le_add_left (ih (n + 1)) _

/-- A tick that moves the counter is told from one that does not by where the counter stands. -/
theorem Ticks.generation_eq (h : Ticks ns s t) :
    t.generation ns =
      s.generation ns + Int32.ofNat (if t.generation ns = s.generation ns then 0 else 1) := by
  split
  · next heq => exact heq.trans (Int32.add_zero _).symm
  · next hne =>
    cases h with
    | quiet _ counter => exact absurd counter hne
    | bumped counter => exact counter

theorem Ticks.tables_eq (h : Ticks ns s t) (heq : t.generation ns = s.generation ns) :
    t.tables.get ns = s.tables.get ns := by
  cases h with
  | quiet entries => exact entries
  | bumped counter =>
    rw [counter, Int32.add_eq_left] at heq
    exact absurd heq (by decide)

/-- Where the counter stands in the end tells how often it has moved, as far as the wrapping around
lets it. -/
theorem generation_getLast (h : Ticking ns (s :: rest)) (hlast : (s :: rest).getLast? = some t) :
    t.generation ns = s.generation ns + Int32.ofNat (bumps ns (s :: rest)) := by
  induction rest generalizing s with
  | nil =>
    obtain rfl := Option.some.inj hlast
    exact (Int32.add_zero _).symm
  | cons u rest ih =>
    rw [List.getLast?_cons_cons] at hlast
    rw [ih h.tail hlast, bumps, Int32.ofNat_add, ← Int32.add_assoc, ← h.head.generation_eq]

/-- A history in which the counter does not move begins with a change that leaves it. -/
theorem bumps_cons_eq_zero (hzero : bumps ns (s :: t :: rest) = 0) :
    t.generation ns = s.generation ns ∧ bumps ns (t :: rest) = 0 := by
  rw [bumps, Nat.add_eq_zero_iff] at hzero
  refine ⟨?_, hzero.2⟩
  by_cases heq : t.generation ns = s.generation ns
  · exact heq
  · rw [if_neg heq] at hzero
    exact absurd hzero.1 Nat.one_ne_zero

/-- While the counter does not move, the entries do not change. -/
theorem tables_of_bumps_eq_zero (h : Ticking ns (s :: rest)) (hzero : bumps ns (s :: rest) = 0) :
    ∀ t ∈ s :: rest, t.tables.get ns = s.tables.get ns := by
  induction rest generalizing s with
  | nil =>
    intro t ht
    rw [List.mem_singleton.mp ht]
  | cons u rest ih =>
    obtain ⟨heq, htail⟩ := bumps_cons_eq_zero hzero
    intro t ht
    rcases List.mem_cons.mp ht with rfl | ht
    · rfl
    · exact (ih h.tail htail t ht).trans (h.head.tables_eq heq)

/-- While the counter does not move, it stands where it stood. -/
theorem generation_of_bumps_eq_zero (hzero : bumps ns (s :: rest) = 0) :
    ∀ t ∈ s :: rest, t.generation ns = s.generation ns := by
  induction rest generalizing s with
  | nil =>
    intro t ht
    rw [List.mem_singleton.mp ht]
  | cons u rest ih =>
    obtain ⟨heq, htail⟩ := bumps_cons_eq_zero hzero
    intro t ht
    rcases List.mem_cons.mp ht with rfl | ht
    · rfl
    · exact (ih htail t ht).trans heq

/-- In a history in which the counter moves fewer than 2 ^ 32 times, it has not moved since it stood
where it stands in the end. -/
theorem Ticking.still {m : Nat} {u : Service} (h : Ticking ns history)
    (hlt : bumps ns history < 2 ^ 32) (hs : history[m]? = some s)
    (hlast : history.getLast? = some u) (heq : s.generation ns = u.generation ns) :
    history.drop m = s :: history.drop (m + 1) ∧ bumps ns (history.drop m) = 0 := by
  obtain ⟨hm, rfl⟩ := List.getElem?_eq_some_iff.mp hs
  have hticking := h.drop m
  have hle := bumps_drop_le ns history m
  have hlast' : (history.drop m).getLast? = some u := by
    rw [List.getLast?_drop, if_neg (Nat.not_le.mpr hm), hlast]
  rw [List.drop_eq_getElem_cons hm] at hticking hle hlast' ⊢
  have hgen := generation_getLast hticking hlast'
  rw [← heq] at hgen
  have haround := (ofNat_eq_zero_iff _).mp (Int32.add_eq_left.mp hgen.symm)
  exact ⟨rfl, Nat.eq_zero_of_dvd_of_lt haround (Nat.lt_of_le_of_lt hle hlt)⟩

/-- In a history in which the counter moves fewer than 2 ^ 32 times, from the moment at which the
counter stood where it stands in the end, it stands there, and the service holds what it holds in
the end. -/
theorem Ticking.steady {m n : Nat} {u : Service} (h : Ticking ns history)
    (hlt : bumps ns history < 2 ^ 32) (hmn : m ≤ n) (hs : history[m]? = some s)
    (ht : history[n]? = some t) (hlast : history.getLast? = some u)
    (heq : s.generation ns = u.generation ns) :
    t.generation ns = u.generation ns ∧ t.tables.get ns = u.tables.get ns := by
  obtain ⟨hdrop, hzero⟩ := h.still hlt hs hlast heq
  have hticking := h.drop m
  have ht' : t ∈ history.drop m := by
    apply List.mem_of_getElem? (i := n - m)
    rw [List.getElem?_drop, Nat.add_sub_cancel' hmn, ht]
  have hu' : u ∈ history.drop m := by
    apply List.mem_of_getLast?
    obtain ⟨hm, -⟩ := List.getElem?_eq_some_iff.mp hs
    rw [List.getLast?_drop, if_neg (Nat.not_le.mpr hm), hlast]
  rw [hdrop] at hticking hzero ht' hu'
  have htables := tables_of_bumps_eq_zero hticking hzero
  exact ⟨(generation_of_bumps_eq_zero hzero t ht').trans heq,
    (htables t ht').trans (htables u hu').symm⟩

end SettingsCache.Service
