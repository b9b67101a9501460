import Mathlib.Algebra.GroupWithZero.Nat
import Mathlib.Data.List.Nodup
import Mathlib.Data.List.Forall2
import Mathlib.Algebra.BigOperators.Group.List.Basic

namespace LiskMigrator.Keyed

section Lookup
variable {R K : Type} {key : R → K} {rows : List R} {wanted : K}

theorem unique (distinct : (rows.map key).Nodup) (one : a ∈ rows) (two : b ∈ rows) (same : key a = key b) : a = b :=
  List.inj_on_of_nodup_map distinct one two same

theorem distinct_filter (distinct : (rows.map key).Nodup) (p : R → Bool) : ((rows.filter p).map key).Nodup :=
  distinct.sublist (List.filter_sublist.map key)

variable [DecidableEq K]

theorem find_exact (distinct : (rows.map key).Nodup) :
    rows.find? (fun r => key r = wanted) = some row ↔ row ∈ rows ∧ key row = wanted := by
  constructor
  · intro found
    exact ⟨List.mem_of_find?_eq_some found,by simpa using List.find?_some found⟩
  · rintro ⟨member,matching⟩
    cases found : rows.find? (fun r => key r = wanted) with
    | none => exact absurd matching (by simpa using List.find?_eq_none.mp found row member)
    | some other =>
      have inRows := List.mem_of_find?_eq_some found
      have keyed : key other = wanted := by simpa using List.find?_some found
      rw [unique distinct inRows member (keyed.trans matching.symm)]

theorem find_none : rows.find? (fun r => key r = wanted) = none ↔ ∀ r ∈ rows, key r ≠ wanted := by
  simp [List.find?_eq_none]

theorem filter_other (absent : ∀ r ∈ rows, key r ≠ wanted) : rows.filter (fun r => key r ≠ wanted) = rows := by
  apply List.filter_eq_self.mpr
  intro r member
  simpa using absent r member

-- One row put aside, the table's total is that of the others and the row's own.
theorem sum_split (distinct : (rows.map key).Nodup) (weight : R → Nat) (wanted : K) :
    (rows.map weight).sum = ((rows.filter (fun r => key r ≠ wanted)).map weight).sum +
      (rows.find? (fun r => key r = wanted)).elim 0 weight := by
  induction rows with
  | nil => rfl
  | cons row rest ih =>
    obtain ⟨fresh,tail⟩ := List.nodup_cons.mp distinct
    by_cases matching : key row = wanted
    · have absent : ∀ r ∈ rest, key r ≠ wanted := by
        intro r member same
        exact fresh (List.mem_map.mpr ⟨r,member,same.trans matching.symm⟩)
      have others := filter_other absent
      simp only [List.map_cons,List.sum_cons,matching,List.filter_cons,List.find?_cons,ne_eq,not_true_eq_false,
        decide_false,decide_true,Option.elim_some]
      rw [if_neg (by decide)]
      simp only [ne_eq] at others
      rw [others,Nat.add_comm]
    · have rest := ih tail
      simp only [List.map_cons,List.sum_cons,List.filter_cons,List.find?_cons,ne_eq,matching,not_false_eq_true,
        decide_true,decide_false,if_true]
      simp only [ne_eq] at rest
      rw [rest,Nat.add_assoc]

theorem filter_single (distinct : (rows.map key).Nodup) (member : row ∈ rows) (matching : key row = wanted) :
    rows.filter (fun r => key r = wanted) = [row] := by
  induction rows with
  | nil => simp at member
  | cons head rest ih =>
    obtain ⟨fresh,tail⟩ := List.nodup_cons.mp distinct
    rcases List.mem_cons.mp member with rfl | later
    · have absent : ∀ r ∈ rest, key r ≠ wanted := by
        intro r present same
        exact fresh (List.mem_map.mpr ⟨r,present,same.trans matching.symm⟩)
      have nothing : rest.filter (fun r => key r = wanted) = [] := by
        simpa [List.filter_eq_nil_iff] using absent
      simp [matching,nothing]
    · have other : key head ≠ wanted := by
        intro same
        exact fresh (List.mem_map.mpr ⟨row,later,matching.trans same.symm⟩)
      simp [other,ih tail later]

end Lookup

section Kept
variable {R S : Type}

theorem filterMap_kept {f : R → Option S} {g : R → S} (p : R → Prop) [DecidablePred p]
    (exact : ∀ r, f r = if p r then some (g r) else none) (rows : List R) :
    rows.filterMap f = (rows.filter p).map g := by
  induction rows with
  | nil => rfl
  | cons row rest ih =>
    by_cases kept : p row
    · simp [exact,kept,← ih]
    · simp [exact,kept,← ih]

-- Filtering before truncating makes a difference exactly when the filter
-- removes one of the rows that truncation keeps.
theorem take_filter (p : R → Prop) [DecidablePred p] (n : Nat) (rows : List R) :
    ((rows.filter p).take n).Perm (rows.take n) ↔ ∀ r ∈ rows.take n, p r := by
  constructor
  · intro same r member
    have inFiltered := List.mem_of_mem_take (same.mem_iff.mpr member)
    simpa using (List.mem_filter.mp inFiltered).2
  · intro all
    have front : (rows.take n).filter p = rows.take n := List.filter_eq_self.mpr (by simpa using all)
    rcases Nat.le_total rows.length n with short | long
    · rw [List.take_of_length_le short] at front
      rw [front]
    · have split : rows.filter p = rows.take n ++ (rows.drop n).filter p := by
        conv => lhs; rw [← List.take_append_drop n rows,List.filter_append,front]
      have length : (rows.take n).length = n := by rw [List.length_take,Nat.min_eq_left long]
      rw [split,List.take_left' length]

theorem map_exact {f : R → S} {left right : List R} (same : left.map f = right.map f)
    (injective : ∀ a ∈ left, ∀ b ∈ right, f a = f b → a = b) : left = right := by
  induction left generalizing right with
  | nil => exact (List.map_eq_nil_iff.mp same.symm).symm
  | cons head tail ih =>
    cases right with
    | nil => cases same
    | cons other rest =>
      obtain ⟨first,later⟩ := List.cons.inj same
      cases injective head List.mem_cons_self other List.mem_cons_self first
      rw [ih later (fun a inTail b inRest => injective a (List.mem_cons_of_mem _ inTail) b (List.mem_cons_of_mem _ inRest))]

variable {K : Type} [DecidableEq K] {key : R → K} {kept : S → K} {rows : List R} {wanted : K}

theorem find_filterMap {f : R → Option S} (distinct : (rows.map key).Nodup) (keys : ∀ r s, f r = some s → kept s = key r) :
    (rows.filterMap f).find? (fun s => kept s = wanted) = (rows.find? (fun r => key r = wanted)).bind f := by
  induction rows with
  | nil => rfl
  | cons row rest ih =>
    obtain ⟨fresh,tail⟩ := List.nodup_cons.mp distinct
    by_cases matching : key row = wanted
    · have absent : rest.find? (fun r => key r = wanted) = none := by
        apply find_none.mpr
        intro r member same
        exact fresh (List.mem_map.mpr ⟨r,member,same.trans matching.symm⟩)
      cases image : f row with
      | none => simp [image,matching,ih tail,absent]
      | some s => simp [image,matching,keys row s image]
    · cases image : f row with
      | none => simp [image,matching,ih tail]
      | some s => simp [image,matching,keys row s image,ih tail]

theorem find_perm {one two : List R} (same : one.Perm two) (distinct : (one.map key).Nodup) :
    one.find? (fun r => key r = wanted) = two.find? (fun r => key r = wanted) := by
  have distinctTwo : (two.map key).Nodup := (same.map key).nodup_iff.mp distinct
  cases found : two.find? (fun r => key r = wanted) with
  | none => exact find_none.mpr (fun r member => find_none.mp found r (same.mem_iff.mp member))
  | some row =>
    obtain ⟨member,matching⟩ := (find_exact distinctTwo).mp found
    exact (find_exact distinct).mpr ⟨same.mem_iff.mpr member,matching⟩

end Kept

-- A table whose rows are given other names for their keys.
section Renamed
variable {R S K N : Type} [DecidableEq K] [DecidableEq N] (key : R → K) (rename : R → S) (named : S → N) (name : K → N)
  {rows : List R} {wanted : K}

theorem filter_renamed (names : ∀ r ∈ rows, named (rename r) = name (key r))
    (injective : ∀ r ∈ rows, name (key r) = name wanted → key r = wanted) :
    (rows.map rename).filter (fun s => named s = name wanted) = (rows.filter (fun r => key r = wanted)).map rename := by
  rw [List.filter_map]
  refine congrArg (List.map rename) (List.filter_congr ?_)
  intro r member
  apply decide_eq_decide.mpr
  rw [names r member]
  exact ⟨injective r member,congrArg name⟩

theorem find_renamed (names : ∀ r ∈ rows, named (rename r) = name (key r))
    (injective : ∀ r ∈ rows, name (key r) = name wanted → key r = wanted) :
    (rows.map rename).find? (fun s => named s = name wanted) = (rows.find? (fun r => key r = wanted)).map rename := by
  rw [← List.head?_filter,filter_renamed key rename named name names injective,List.head?_map,List.head?_filter]

end Renamed

section Rearranged
variable {R S K : Type} {rel : R → R → Prop} {one two : List R}

-- The rows of one table in another order, each replaced by a related one.
def Rearranged (rel : R → R → Prop) (one two : List R) : Prop :=
  ∃ middle, one.Perm middle ∧ List.Forall₂ rel middle two

theorem related_map {f : R → S} (agree : ∀ a b, rel a b → f a = f b) (related : List.Forall₂ rel one two) :
    one.map f = two.map f := by
  induction related with
  | nil => rfl
  | cons head _ ih => rw [List.map_cons,List.map_cons,agree _ _ head,ih]

theorem related_member {rel : R → S → Prop} {one : List R} {two : List S} (related : List.Forall₂ rel one two)
    (member : a ∈ one) : ∃ b ∈ two, rel a b := by
  induction related with
  | nil => simp at member
  | @cons x y _ _ head _ ih =>
    rcases List.mem_cons.mp member with rfl | tail
    · exact ⟨y,List.mem_cons_self,head⟩
    · obtain ⟨b,inTwo,ab⟩ := ih tail
      exact ⟨b,List.mem_cons_of_mem y inTwo,ab⟩

theorem related_source {rel : R → S → Prop} {one : List R} {two : List S} (related : List.Forall₂ rel one two)
    (member : b ∈ two) : ∃ a ∈ one, rel a b := by
  induction related with
  | nil => simp at member
  | @cons x y _ _ head _ ih =>
    rcases List.mem_cons.mp member with rfl | tail
    · exact ⟨x,List.mem_cons_self,head⟩
    · obtain ⟨a,inOne,ab⟩ := ih tail
      exact ⟨a,List.mem_cons_of_mem x inOne,ab⟩

theorem related_filter {p : R → Bool} (agree : ∀ a b, rel a b → p a = p b) (related : List.Forall₂ rel one two) :
    List.Forall₂ rel (one.filter p) (two.filter p) := by
  induction related with
  | nil => exact .nil
  | @cons a b _ _ head _ ih =>
    cases kept : p a with
    | true => simpa [List.filter_cons,kept,← agree a b head] using List.Forall₂.cons head ih
    | false => simpa [List.filter_cons,kept,← agree a b head] using ih

theorem related_choice {rel : R → R → Prop} {one two : List R} (back : ∀ b ∈ two, ∃ a ∈ one, rel a b) :
    ∃ middle, List.Forall₂ rel middle two ∧ ∀ a ∈ middle, a ∈ one := by
  induction two with
  | nil => exact ⟨[],.nil,fun _ member => absurd member List.not_mem_nil⟩
  | cons b rest ih =>
    obtain ⟨middle,related,inside⟩ := ih (fun c member => back c (List.mem_cons_of_mem b member))
    obtain ⟨a,member,ab⟩ := back b List.mem_cons_self
    exact ⟨a :: middle,.cons ab related,List.forall_mem_cons.mpr ⟨member,inside⟩⟩

-- Rows of distinct keys that have partners under their keys, in both directions.
theorem rearranged_of {rel : R → R → Prop} {key : R → K} (keyed : ∀ a b, rel a b → key a = key b) (distinctOne : (one.map key).Nodup)
    (distinctTwo : (two.map key).Nodup) (forth : ∀ a ∈ one, ∃ b ∈ two, rel a b) (back : ∀ b ∈ two, ∃ a ∈ one, rel a b) :
    Rearranged rel one two := by
  obtain ⟨middle,related,inside⟩ := related_choice back
  have distinct : (middle.map key).Nodup := related_map keyed related ▸ distinctTwo
  refine ⟨middle,(List.perm_ext_iff_of_nodup distinctOne.of_map distinct.of_map).mpr ?_,related⟩
  intro a
  constructor
  · intro member
    obtain ⟨b,inTwo,ab⟩ := forth a member
    obtain ⟨other,inMiddle,ob⟩ := related_source related inTwo
    have same := unique distinctOne member (inside other inMiddle) ((keyed a b ab).trans (keyed other b ob).symm)
    exact same ▸ inMiddle
  · exact inside a

theorem Rearranged.map {f : R → S} (same : Rearranged rel one two) (agree : ∀ a b, rel a b → f a = f b) :
    (one.map f).Perm (two.map f) := by
  obtain ⟨middle,moved,related⟩ := same
  rw [← related_map agree related]
  exact moved.map f

theorem Rearranged.filterMap {f : R → Option S} (same : Rearranged rel one two) (agree : ∀ a b, rel a b → f a = f b) :
    (one.filterMap f).Perm (two.filterMap f) := by
  have mapped := (same.map agree).filterMap id
  simpa [List.filterMap_map] using mapped

theorem Rearranged.filter {p : R → Bool} (same : Rearranged rel one two) (agree : ∀ a b, rel a b → p a = p b) :
    Rearranged rel (one.filter p) (two.filter p) := by
  obtain ⟨middle,moved,related⟩ := same
  exact ⟨middle.filter p,moved.filter p,related_filter agree related⟩

theorem Rearranged.sum {weight : R → Nat} (same : Rearranged rel one two) (agree : ∀ a b, rel a b → weight a = weight b) :
    (one.map weight).sum = (two.map weight).sum := (same.map agree).sum_eq

theorem Rearranged.source (same : Rearranged rel one two) (member : b ∈ two) : ∃ a ∈ one, rel a b := by
  obtain ⟨middle,moved,related⟩ := same
  obtain ⟨a,inMiddle,ab⟩ := related_source related member
  exact ⟨a,moved.mem_iff.mpr inMiddle,ab⟩

-- The one row under a key is found in either order.
theorem Rearranged.find [DecidableEq K] {key : R → K} {wanted : K} (same : Rearranged rel one two)
    (keyed : ∀ a b, rel a b → key a = key b) (distinct : (one.map key).Nodup) :
    Option.Rel rel (one.find? (fun r => key r = wanted)) (two.find? (fun r => key r = wanted)) := by
  have distinctTwo : (two.map key).Nodup := (same.map keyed).nodup_iff.mp distinct
  obtain ⟨middle,moved,related⟩ := same
  cases found : one.find? (fun r => key r = wanted) with
  | none =>
    have absent : ∀ r ∈ two, key r ≠ wanted := by
      intro r member matching
      have inOne : key r ∈ one.map key := by
        rw [(moved.map key).mem_iff,related_map keyed related]
        exact List.mem_map.mpr ⟨r,member,rfl⟩
      obtain ⟨a,inA,sameKey⟩ := List.mem_map.mp inOne
      exact find_none.mp found a inA (sameKey.trans matching)
    rw [find_none.mpr absent]
    exact .none
  | some a =>
    obtain ⟨member,matching⟩ := (find_exact distinct).mp found
    obtain ⟨b,inTwo,ab⟩ := related_member related (moved.mem_iff.mp member)
    rw [(find_exact distinctTwo).mpr ⟨inTwo,(keyed a b ab).symm.trans matching⟩]
    exact .some ab

end Rearranged
end LiskMigrator.Keyed
