import Mathlib.Data.List.Induction
import Mathlib.Data.List.Nodup

namespace LiskMigrator.Collections

section Sets
variable {α : Type} [DecidableEq α] {members : List α}

-- Set.prototype.add: the members in the order of their first insertion.
def add (members : List α) (value : α) : List α := if value ∈ members then members else members ++ [value]

@[simp] theorem mem_add : x ∈ add members value ↔ x ∈ members ∨ x = value := by
  unfold add
  split
  · rename_i present
    refine ⟨.inl,?_⟩
    rintro (old | rfl)
    · exact old
    · exact present
  · simp

theorem add_nodup (distinct : members.Nodup) (value : α) : (add members value).Nodup := by
  unfold add
  split
  · exact distinct
  · rename_i fresh
    refine List.nodup_append.mpr ⟨distinct,List.nodup_singleton value,?_⟩
    rintro x member _ single rfl
    cases List.mem_singleton.mp single
    exact fresh member

theorem mem_addAll {values : List α} : x ∈ values.foldl add members ↔ x ∈ members ∨ x ∈ values := by
  induction values generalizing members with
  | nil => simp
  | cons value rest ih => rw [List.foldl_cons,ih,mem_add,List.mem_cons,or_assoc]

theorem addAll_nodup (distinct : members.Nodup) (values : List α) : (values.foldl add members).Nodup := by
  induction values generalizing members with
  | nil => exact distinct
  | cons value rest ih => exact ih (add_nodup distinct value)

end Sets

-- A table that assignment fills, newest assignment first.
abbrev Record (κ ν : Type) := List (κ × ν)

section Records
variable {ι κ ν : Type}

def Record.set (record : Record κ ν) (property : κ) (value : ν) : Record κ ν := (property,value) :: record

-- Assign the value of every item to its property, in the order of the items.
def assign (property : ι → κ) (value : ι → ν) (record : Record κ ν) (items : List ι) : Record κ ν :=
  items.foldl (fun record item => record.set (property item) (value item)) record

variable {property : ι → κ} {value : ι → ν}

theorem assign_append (record : Record κ ν) (items : List ι) (item : ι) :
    assign property value record (items ++ [item]) = (assign property value record items).set (property item) (value item) := by
  simp [assign]

variable [DecidableEq κ]

def Record.get (record : Record κ ν) (property : κ) : Option ν := record.lookup property

theorem Record.get_set_same (record : Record κ ν) (property : κ) (value : ν) :
    (record.set property value).get property = some value := by
  simp [Record.set,Record.get]

theorem Record.get_set_other (record : Record κ ν) {property other : κ} (value : ν) (different : other ≠ property) :
    (record.set property value).get other = record.get other := by
  have unequal : (other == property) = false := beq_eq_false_iff_ne.mpr different
  simp [Record.set,Record.get,List.lookup_cons,unequal]

theorem assign_untouched (record : Record κ ν) (items : List ι) (untouched : ∀ item ∈ items, property item ≠ wanted) :
    (assign property value record items).get wanted = record.get wanted := by
  induction items using List.reverseRecOn with
  | nil => rfl
  | append_singleton items item ih =>
    have last := untouched item (List.mem_append_right items (List.mem_singleton.mpr rfl))
    rw [assign_append,Record.get_set_other _ _ (Ne.symm last)]
    exact ih (fun i member => untouched i (List.mem_append_left [item] member))

-- Overwriting is harmless when all items of one property carry one value.
theorem assign_agreed (record : Record κ ν) (items : List ι) (present : item ∈ items)
    (agreed : ∀ other ∈ items, property other = property item → value other = value item) :
    (assign property value record items).get (property item) = some (value item) := by
  induction items using List.reverseRecOn with
  | nil => simp at present
  | append_singleton items last ih =>
    rw [assign_append]
    by_cases same : property last = property item
    · have equal := agreed last (List.mem_append_right items (List.mem_singleton.mpr rfl)) same
      rw [← same,Record.get_set_same,equal]
    · have earlier : item ∈ items := by
        rcases List.mem_append.mp present with earlier | isLast
        · exact earlier
        · cases List.mem_singleton.mp isLast
          exact absurd rfl same
      rw [Record.get_set_other _ _ (Ne.symm same)]
      exact ih earlier (fun i member => agreed i (List.mem_append_left [last] member))

end Records
end LiskMigrator.Collections
