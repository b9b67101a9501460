import Mathlib.Data.List.Sort

namespace LiskMigrator.Sorting
open Std

variable {α β : Type} {cmp : α → α → Ordering}

def Before (cmp : α → α → Ordering) (left right : α) : Prop := (cmp left right).isLE = true

instance : DecidableRel (Before cmp) := fun left right => inferInstanceAs (Decidable ((cmp left right).isLE = true))

instance [TransCmp cmp] : IsTrans α (Before cmp) where
  trans _ _ _ one two := TransCmp.isLE_trans one two

instance [OrientedCmp cmp] : Std.Total (Before cmp) where
  total left right := by
    cases compared : cmp left right with
    | lt | eq => exact .inl (by simp [Before,compared])
    | gt => exact .inr (by simp [Before,OrientedCmp.lt_of_gt compared])

-- The stable sort that a comparator function drives: two items stay in their
-- given order unless the comparator puts the second one strictly first.
def sortBy (cmp : α → α → Ordering) (items : List α) : List α := items.insertionSort (Before cmp)

def Ascending (cmp : α → α → Ordering) (items : List α) : Prop :=
  items.Pairwise (fun left right => cmp left right = .lt)

instance : Decidable (Ascending cmp items) :=
  inferInstanceAs (Decidable (items.Pairwise (fun left right => cmp left right = .lt)))

theorem sortBy_perm (cmp : α → α → Ordering) (items : List α) : (sortBy cmp items).Perm items :=
  List.perm_insertionSort _ _

@[simp] theorem mem_sortBy : item ∈ sortBy cmp items ↔ item ∈ items := (sortBy_perm cmp items).mem_iff

theorem sortBy_ordered [TransCmp cmp] (items : List α) : (sortBy cmp items).Pairwise (Before cmp) :=
  List.pairwise_insertionSort _ _

theorem sortBy_map {other : β → β → Ordering} (f : α → β)
    (agree : ∀ left right, other (f left) (f right) = cmp left right) (items : List α) :
    (sortBy cmp items).map f = sortBy other (items.map f) := by
  apply List.map_insertionSort _ _ f items
  intro left _ right _
  simp [Before,agree]

-- Items that the comparator tells apart come out strictly ascending.
theorem sortBy_ascending [TransCmp cmp] (distinct : items.Pairwise (fun left right => cmp left right ≠ .eq)) :
    Ascending cmp (sortBy cmp items) := by
  have apart : (sortBy cmp items).Pairwise (fun left right => cmp left right ≠ .eq) := by
    apply (sortBy_perm cmp items).symm.pairwise distinct
    intro left right different same
    exact different (OrientedCmp.eq_symm same)
  refine (sortBy_ordered items).imp₂ ?_ apart
  intro left right before different
  cases compared : cmp left right with
  | lt => rfl
  | eq => exact absurd compared different
  | gt => simp [Before,compared] at before

-- The order of the input is forgotten as soon as ties are between equal items.
theorem sortBy_eq_of_perm (cmp : α → α → Ordering) [TransCmp cmp] (same : one.Perm two)
    (exact : ∀ left ∈ one, ∀ right ∈ one, cmp left right = .eq → left = right) :
    sortBy cmp one = sortBy cmp two := by
  refine List.Perm.eq_of_pairwise ?_ (sortBy_ordered one) (sortBy_ordered two)
    ((sortBy_perm cmp one).trans (same.trans (sortBy_perm cmp two).symm))
  intro left right inOne inTwo before after
  have leftMember : left ∈ one := mem_sortBy.mp inOne
  have rightMember : right ∈ one := same.mem_iff.mpr (mem_sortBy.mp inTwo)
  exact exact left leftMember right rightMember (OrientedCmp.isLE_antisymm before after)

theorem Ascending.nodup [ReflCmp cmp] (ascending : Ascending cmp items) : items.Nodup := by
  apply ascending.imp
  rintro left _ less rfl
  simp [ReflCmp.compare_self] at less

section Keys
variable {K : Type} [Ord K] {key : α → K}

-- A comparator that tells rows apart by their keys whenever these differ.
def Decides (cmp : α → α → Ordering) (key : α → K) : Prop :=
  ∀ a b, key a ≠ key b → cmp a b = compare (key a) (key b)

theorem compareOn_decides (key : α → K) : Decides (compareOn key) key := fun _ _ _ => rfl

variable [LawfulEqOrd K] [TransCmp cmp]

theorem sorted_keys (decides : Decides cmp key) (distinct : (items.map key).Nodup) :
    Ascending compare ((sortBy cmp items).map key) := by
  have apart : items.Pairwise (fun a b => cmp a b ≠ .eq) := by
    apply (List.pairwise_map.mp distinct).imp
    intro a b different same
    rw [decides a b different] at same
    exact different (LawfulEqOrd.eq_of_compare same)
  have still : ((sortBy cmp items).map key).Nodup := ((sortBy_perm cmp items).map key).nodup_iff.mpr distinct
  apply List.pairwise_map.mpr
  refine (sortBy_ascending apart).imp₂ ?_ (List.pairwise_map.mp still)
  intro a b less different
  rw [← decides a b different,less]

-- The order in which rows of distinct keys come is forgotten.
theorem sorted_same (decides : Decides cmp key) (distinct : (one.map key).Nodup) (same : one.Perm two) :
    sortBy cmp one = sortBy cmp two := by
  apply sortBy_eq_of_perm cmp same
  intro left inOne right inTwo tied
  apply List.inj_on_of_nodup_map distinct inOne inTwo
  by_contra different
  rw [decides left right different] at tied
  exact different (LawfulEqOrd.eq_of_compare tied)

end Keys

end LiskMigrator.Sorting
