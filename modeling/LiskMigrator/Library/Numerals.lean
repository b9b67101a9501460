import Mathlib.Data.Nat.Digits.Defs

namespace LiskMigrator.Numerals
open Std

variable {D : Type} {base : Nat} {digit : D → Nat}

-- The number that digits write in a positional system, the high one first.
def value (base : Nat) (digit : D → Nat) (digits : List D) : Nat := Nat.ofDigits base (digits.reverse.map digit)

theorem value_append (one two : List D) :
    value base digit (one ++ two) = value base digit one*base^two.length+value base digit two := by
  unfold value
  rw [List.reverse_append,List.map_append,Nat.ofDigits_append,List.length_map,List.length_reverse,Nat.add_comm,Nat.mul_comm]

theorem value_singleton (d : D) : value base digit [d] = digit d := Nat.ofDigits_singleton

theorem value_cons (d : D) (rest : List D) :
    value base digit (d :: rest) = digit d*base^rest.length+value base digit rest := by
  have split : value base digit ([d] ++ rest) = _ := value_append [d] rest
  rwa [value_singleton,List.singleton_append] at split

theorem value_zeros (zero : digit d = 0) (n : Nat) : value base digit (List.replicate n d) = 0 := by
  unfold value
  rw [List.reverse_replicate,List.map_replicate,zero,Nat.ofDigits_replicate_zero]

-- The highest number of a length.
theorem value_highest (highest : digit d+1 = base) (n : Nat) : value base digit (List.replicate n d)+1 = base^n := by
  induction n with
  | zero => rfl
  | succ n ih =>
    have power : base^(n+1) = digit d*base^n+base^n := by
      rw [Nat.pow_succ,Nat.mul_comm,← highest,Nat.succ_mul]
    rw [List.replicate_succ,value_cons,List.length_replicate,power,Nat.add_assoc,ih]

-- A system whose digits stay below the base and are ordered as their numbers are.
structure System [Ord D] (base : Nat) (digit : D → Nat) : Prop where
  positive : 1 < base
  below : ∀ d, digit d < base
  compares : ∀ a b, compare a b = compare (digit a) (digit b)

section System
variable [Ord D]

theorem value_bound (system : System base digit) (digits : List D) : value base digit digits < base^digits.length := by
  have bound : Nat.ofDigits base (digits.reverse.map digit) < base^(digits.reverse.map digit).length := by
    apply Nat.ofDigits_lt_base_pow_length system.positive
    intro n member
    obtain ⟨d,_,rfl⟩ := List.mem_map.mp member
    exact system.below d
  rwa [List.length_map,List.length_reverse] at bound

-- Among numerals of one length the order of the digits is that of the numbers.
theorem compare_value (system : System base digit) {one two : List D} (length : one.length = two.length) :
    compare one two = compare (value base digit one) (value base digit two) := by
  induction one generalizing two with
  | nil =>
    cases List.length_eq_zero_iff.mp length.symm
    rfl
  | cons a one ih =>
    cases two with
    | nil => cases length
    | cons b two =>
      have same : one.length = two.length := Nat.succ.inj length
      have boundOne := value_bound system one
      have boundTwo := value_bound system two
      rw [List.compare_cons_cons,system.compares,value_cons,value_cons,same]
      rw [same] at boundOne
      cases compared : compare (digit a) (digit b) with
      | lt =>
        have less := Nat.compare_eq_lt.mp compared
        have step : (digit a+1)*base^two.length ≤ digit b*base^two.length := Nat.mul_le_mul_right _ less
        rw [Nat.succ_mul] at step
        exact (Nat.compare_eq_lt.mpr (by omega)).symm
      | gt =>
        have greater := Nat.compare_eq_gt.mp compared
        have step : (digit b+1)*base^two.length ≤ digit a*base^two.length := Nat.mul_le_mul_right _ greater
        rw [Nat.succ_mul] at step
        exact (Nat.compare_eq_gt.mpr (by omega)).symm
      | eq =>
        rw [Nat.compare_eq_eq.mp compared,ih same]
        simp only [Ordering.eq_then,Nat.compare_eq_ite_lt,Nat.add_lt_add_iff_left]

theorem value_less (system : System base digit) {one two : List D} (length : one.length = two.length) :
    compare one two = .lt ↔ value base digit one < value base digit two := by
  rw [compare_value system length,Nat.compare_eq_lt]

end System
end LiskMigrator.Numerals
