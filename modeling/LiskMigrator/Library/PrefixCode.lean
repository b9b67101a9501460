import Mathlib.Data.List.Basic

namespace LiskMigrator.PrefixCode
open Std

variable {α β : Type} [Ord α] [Ord β] {left right : List α}

-- The two words part at some position that lies inside both of them, and the
-- left one has the smaller letter there. Neither is then a prefix of the other.
def Splits (left right : List α) : Prop :=
  ∃ shared a b x y, left = shared ++ a :: x ∧ right = shared ++ b :: y ∧ compare a b = .lt

theorem Splits.shared (word : List α) (splits : Splits left right) : Splits (word ++ left) (word ++ right) := by
  obtain ⟨shared,a,b,x,y,rfl,rfl,less⟩ := splits
  exact ⟨word ++ shared,a,b,x,y,by simp,by simp,less⟩

theorem Splits.extended (splits : Splits left right) (one two : List α) :
    Splits (left ++ one) (right ++ two) := by
  obtain ⟨shared,a,b,x,y,rfl,rfl,less⟩ := splits
  exact ⟨shared,a,b,x ++ one,y ++ two,by simp,by simp,less⟩

theorem compare_append [ReflOrd α] (shared left right : List α) :
    compare (shared ++ left) (shared ++ right) = compare left right := by
  induction shared with
  | nil => rfl
  | cons letter rest ih =>
    rw [List.cons_append,List.cons_append,List.compare_cons_cons,ReflOrd.compare_self,Ordering.eq_then,ih]

theorem Splits.less [ReflOrd α] (splits : Splits left right) : compare left right = .lt := by
  obtain ⟨shared,a,b,x,y,rfl,rfl,less⟩ := splits
  rw [compare_append,List.compare_cons_cons,less]
  rfl

theorem Splits.apart [ReflOrd α] (splits : Splits left right) : ¬ left <+: right ∧ ¬ right <+: left := by
  obtain ⟨shared,a,b,x,y,rfl,rfl,less⟩ := splits
  have different : a ≠ b := by
    intro same
    rw [same,ReflOrd.compare_self] at less
    cases less
  rw [List.prefix_append_right_inj,List.prefix_append_right_inj,List.cons_prefix_cons,List.cons_prefix_cons]
  exact ⟨fun before => different before.1,fun before => different before.1.symm⟩

theorem less_cases [LawfulEqOrd α] (less : compare left right = .lt) :
    Splits left right ∨ ∃ letter rest, right = left ++ letter :: rest := by
  induction left generalizing right with
  | nil =>
    cases right with
    | nil => simp at less
    | cons letter rest => exact .inr ⟨letter,rest,rfl⟩
  | cons a left ih =>
    cases right with
    | nil => simp at less
    | cons b right =>
      rw [List.compare_cons_cons] at less
      cases compared : compare a b with
      | lt => exact .inl ⟨[],a,b,left,right,rfl,rfl,compared⟩
      | gt => simp [compared] at less
      | eq =>
        cases LawfulEqOrd.eq_of_compare compared
        rcases ih (by simpa using less) with splits | ⟨letter,rest,rfl⟩
        · exact .inl (splits.shared [a])
        · exact .inr ⟨letter,rest,rfl⟩

-- Different words of one length can only differ by splitting.
theorem splits_of_length [LawfulEqOrd α] (length : left.length = right.length)
    (less : compare left right = .lt) : Splits left right := by
  rcases less_cases less with splits | ⟨letter,rest,rfl⟩
  · exact splits
  · simp at length

-- Raising the last letter to the next one leaps over nothing but extensions:
-- a word that the old one splits from is still not passed.
theorem Splits.leap [LawfulEqOrd α] {front : List α} {last next : α} (splits : Splits (front ++ [last]) right)
    (gapless : ∀ letter, compare last letter = .lt → (compare next letter).isLE) :
    (compare (front ++ [next]) right).isLE := by
  obtain ⟨shared,a,b,x,y,left,rfl,less⟩ := splits
  rcases List.eq_nil_or_concat x with rfl | ⟨middle,final,rfl⟩
  · obtain ⟨rfl,single⟩ := List.append_inj' left rfl
    cases List.singleton_inj.mp single
    rw [compare_append,List.compare_cons_cons]
    have before := gapless b less
    cases compared : compare next b with
    | lt => rfl
    | gt => simp [compared] at before
    | eq => cases y <;> rfl
  · have parts : front ++ [last] = (shared ++ a :: middle) ++ [final] := by simp [left]
    obtain ⟨rfl,_⟩ := List.append_inj' parts rfl
    have still : Splits ((shared ++ a :: middle) ++ [next]) (shared ++ b :: y) :=
      ⟨shared,a,b,middle ++ [next],y,by simp,rfl,less⟩
    rw [still.less]
    rfl

-- What lies between two words with a common beginning begins with it as well.
theorem between_prefix [TransOrd α] [LawfulEqOrd α] {start word low high : List α}
    (above : (compare (start ++ low) word).isLE) (below : (compare word (start ++ high)).isLE) : start <+: word := by
  induction start generalizing word with
  | nil => exact List.nil_prefix
  | cons letter start ih =>
    cases word with
    | nil => simp at above
    | cons other word =>
      rw [List.cons_append,List.compare_cons_cons,Ordering.isLE_then_iff_and] at above below
      cases LawfulEqOrd.eq_of_compare (OrientedCmp.isLE_antisymm above.1 below.1)
      rw [ReflOrd.compare_self] at above below
      exact List.prefix_cons_inj letter |>.mpr (ih (by simpa using above.2) (by simpa using below.2))

theorem lowest [TransOrd α] [LawfulEqOrd α] {letter : α} (least : ∀ other, (compare letter other).isLE) (word : List α) :
    (compare (List.replicate word.length letter) word).isLE := by
  induction word with
  | nil => rfl
  | cons head word ih =>
    rw [List.length_cons,List.replicate_succ,List.compare_cons_cons,Ordering.isLE_then_iff_and]
    exact ⟨least head,.inr ih⟩

theorem highest [TransOrd α] [LawfulEqOrd α] {letter : α} (greatest : ∀ other, (compare other letter).isLE) (word : List α) :
    (compare word (List.replicate word.length letter)).isLE := by
  induction word with
  | nil => rfl
  | cons head word ih =>
    rw [List.length_cons,List.replicate_succ,List.compare_cons_cons,Ordering.isLE_then_iff_and]
    exact ⟨greatest head,.inr ih⟩

-- A letter code whose words split in the order of the letters.
structure LetterCode (code : α → List β) : Prop where
  splits : ∀ a b, compare a b = .lt → Splits (code a) (code b)
  nonempty : ∀ a, code a ≠ []

theorem LetterCode.encoded {code : α → List β} (letters : LetterCode code) (splits : Splits left right) :
    Splits (left.flatMap code) (right.flatMap code) := by
  obtain ⟨shared,a,b,x,y,rfl,rfl,less⟩ := splits
  simp only [List.flatMap_append,List.flatMap_cons]
  exact ((letters.splits a b less).extended _ _).shared _

theorem LetterCode.encoded_less [LawfulEqOrd α] [ReflOrd β] {code : α → List β} (letters : LetterCode code)
    (less : compare left right = .lt) : compare (left.flatMap code) (right.flatMap code) = .lt := by
  rcases less_cases less with splits | ⟨letter,rest,rfl⟩
  · exact (letters.encoded splits).less
  · obtain ⟨head,tail,word⟩ := List.exists_cons_of_ne_nil (letters.nonempty letter)
    have base := compare_append (left.flatMap code) [] (head :: (tail ++ rest.flatMap code))
    simpa [List.flatMap_append,List.flatMap_cons,word] using base

-- The encoding is an order isomorphism onto its words.
theorem LetterCode.compare_encoded [TransOrd α] [LawfulEqOrd α] [TransOrd β] [LawfulEqOrd β]
    {code : α → List β} (letters : LetterCode code) (left right : List α) :
    compare (left.flatMap code) (right.flatMap code) = compare left right := by
  cases compared : compare left right with
  | lt => exact letters.encoded_less compared
  | eq => cases LawfulEqOrd.eq_of_compare compared; exact ReflOrd.compare_self
  | gt =>
    have greater := letters.encoded_less (OrientedCmp.lt_of_gt compared)
    exact OrientedCmp.gt_of_lt greater

end LiskMigrator.PrefixCode
