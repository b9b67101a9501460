import Std.Data.String.ToInt
import LiskMigrator.Library.Bytes

namespace LiskMigrator.Fields

section Lists
variable {α β γ : Type} {mark : α}

-- A field that ends at the first mark is known from the whole text.
theorem field_inj {one two rest more : List α} (oneFree : mark ∉ one) (twoFree : mark ∉ two)
    (same : one ++ mark :: rest = two ++ mark :: more) : one = two ∧ rest = more := by
  induction one generalizing two with
  | nil =>
    cases two with
    | nil => exact ⟨rfl,(List.cons.inj same).2⟩
    | cons letter two => exact absurd ((List.cons.inj same).1 ▸ List.mem_cons_self) twoFree
  | cons letter one ih =>
    cases two with
    | nil => exact absurd ((List.cons.inj same).1 ▸ List.mem_cons_self) oneFree
    | cons other two =>
      obtain ⟨rfl,tails⟩ := List.cons.inj same
      obtain ⟨rfl,rests⟩ := ih (fun member => oneFree (List.mem_cons_of_mem _ member)) (fun member => twoFree (List.mem_cons_of_mem _ member)) tails
      exact ⟨rfl,rests⟩

-- Blocks of one length, of which none is empty, are known from their concatenation.
theorem blocks_inj {block : α → List β} {size : Nat} (sized : ∀ a, (block a).length = size+1) {one two : List α} :
    one.flatMap block = two.flatMap block ↔ one.map block = two.map block := by
  have filled (a : α) (rest : List α) : (a :: rest).flatMap block ≠ [] := by
    intro none
    have lengths := congrArg List.length none
    rw [List.flatMap_cons,List.length_append,sized,List.length_nil] at lengths
    omega
  constructor
  · intro same
    induction one generalizing two with
    | nil =>
      cases two with
      | nil => rfl
      | cons a two => exact absurd same.symm (filled a two)
    | cons a one ih =>
      cases two with
      | nil => exact absurd same (filled a one)
      | cons b two =>
        rw [List.flatMap_cons,List.flatMap_cons] at same
        obtain ⟨head,tail⟩ := List.append_inj same ((sized a).trans (sized b).symm)
        rw [List.map_cons,List.map_cons,head,ih tail]
  · intro same
    rw [List.flatMap_def,List.flatMap_def,same]

theorem maps_iff {f : α → β} {g : α → γ} (same : ∀ a b, f a = f b ↔ g a = g b) {one two : List α} :
    one.map f = two.map f ↔ one.map g = two.map g := by
  induction one generalizing two with
  | nil => simp only [List.map_nil,List.nil_eq,List.map_eq_nil_iff]
  | cons a one ih =>
    cases two with
    | nil => simp only [List.map_cons,List.map_nil,reduceCtorEq]
    | cons b two => simp only [List.map_cons,List.cons.injEq,same,ih]

end Lists

section Texts
variable {mark : Char} {one two rest more : String}

-- The same of texts, where what follows a field begins with the mark.
theorem text_inj {start : String} (marked : start.toList.head? = some mark) (oneFree : mark ∉ one.toList) (twoFree : mark ∉ two.toList)
    (same : one ++ (start ++ rest) = two ++ (start ++ more)) : one = two ∧ rest = more := by
  have letters := congrArg String.toList same
  simp only [String.toList_append] at letters
  cases begun : start.toList with
  | nil =>
    rw [begun] at marked
    cases marked
  | cons first others =>
    rw [begun] at marked letters
    cases marked
    obtain ⟨fields,tails⟩ := field_inj oneFree twoFree letters
    exact ⟨String.toList_injective fields,String.toList_injective (List.append_cancel_left tails)⟩

theorem digit_of_repr {n : Nat} (member : c ∈ (Nat.repr n).toList) : c.isDigit = true := by
  have digits : (Nat.repr n).toList = Nat.toDigits 10 n := String.toList_ofList
  exact Nat.isDigit_of_mem_toDigits (by decide) (by decide) (digits ▸ member)

-- An integer is written in digits, with a sign before them at most.
theorem integer_letter {n : Int} (member : c ∈ (toString n).toList) : c.isDigit = true ∨ c = '-' := by
  cases n with
  | ofNat n => exact .inl (digit_of_repr member)
  | negSucc n =>
    have spelled : (toString (Int.negSucc n)).toList = '-' :: (Nat.repr (n+1)).toList := String.toList_append
    rw [spelled] at member
    rcases List.mem_cons.mp member with sign | digit
    · exact .inr sign
    · exact .inl (digit_of_repr digit)

theorem integer_inj {m n : Int} : toString m = toString n ↔ m = n := Int.repr_inj

end Texts
end LiskMigrator.Fields
