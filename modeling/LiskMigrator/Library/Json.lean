import Mathlib.Data.Rat.Defs
import Mathlib.Data.List.Infix

namespace LiskMigrator

-- A value that JSON.parse gives. The exact value of a number stands for the
-- double that is nearest to it.
inductive Json where
  | null
  | boolean (value : Bool)
  | number (value : ℚ)
  | string (value : String)
  | array (elements : List Json)
  | object (fields : List (String × Json))

namespace Json

def truthy : Json → Bool
  | .null => false
  | .boolean value => value
  | .number value => value ≠ 0
  | .string value => value ≠ ""
  | .array _ => true
  | .object _ => true

def isObject : Json → Bool
  | .object _ => true
  | _ => false

-- A property of a value, undefined where the value has none of that name.
def get : Json → String → Option Json
  | .object fields,name => fields.lookup name
  | _,_ => none

def assign (name : String) (value : Json) : List (String × Json) → List (String × Json)
  | [] => [(name,value)]
  | (known,old) :: rest => if known = name then (name,value) :: rest else (known,old) :: assign name value rest

-- Only an object takes an assignment; JavaScript throws at null and undefined.
def set : Json → String → Json → Json
  | .object fields,name,value => .object (assign name value fields)
  | other,_,_ => other

def find : Json → List String → Option Json
  | json,[] => some json
  | json,name :: path => (json.get name).bind (·.find path)

-- json.a.b.c = value
def put : Json → List String → Json → Json
  | _,[],value => value
  | json,[name],value => json.set name value
  | json,name :: path,value =>
    match json.get name with
    | none => json
    | some child => json.set name (child.put path value)

theorem lookup_assign_same (fields : List (String × Json)) : (assign name value fields).lookup name = some value := by
  induction fields with
  | nil => simp [assign]
  | cons field rest ih =>
    obtain ⟨known,old⟩ := field
    unfold assign
    split
    · simp
    · rename_i other
      have unequal : (name == known) = false := beq_eq_false_iff_ne.mpr (Ne.symm other)
      rw [List.lookup_cons,unequal]
      exact ih

theorem lookup_assign_other (fields : List (String × Json)) (different : other ≠ name) :
    (assign name value fields).lookup other = fields.lookup other := by
  have unequal : (other == name) = false := beq_eq_false_iff_ne.mpr different
  induction fields with
  | nil => simp [assign,List.lookup_cons,unequal]
  | cons field rest ih =>
    obtain ⟨known,old⟩ := field
    unfold assign
    split
    · rename_i same
      simp [List.lookup_cons,unequal,same]
    · rw [List.lookup_cons,List.lookup_cons,ih]

theorem get_set_same {json : Json} (object : json.isObject = true) : (json.set name value).get name = some value := by
  cases json with
  | object fields => exact lookup_assign_same fields
  | _ => cases object

theorem get_set_other (json : Json) (different : other ≠ name) : (json.set name value).get other = json.get other := by
  cases json with
  | object fields => exact lookup_assign_other fields different
  | _ => rfl

theorem set_isObject (json : Json) : (json.set name value).isObject = json.isObject := by
  cases json <;> rfl

theorem get_isObject {json : Json} (found : json.get name = some child) : json.isObject = true := by
  cases json with
  | object fields => rfl
  | _ => cases found

-- Two places of which none lies inside the other.
def Apart (one two : List String) : Prop := ¬ one <+: two ∧ ¬ two <+: one

instance : Decidable (Apart one two) := inferInstanceAs (Decidable (_ ∧ _))

theorem Apart.symm (apart : Apart one two) : Apart two one := ⟨apart.2,apart.1⟩

theorem Apart.tail (apart : Apart (name :: one) (name :: two)) : Apart one two :=
  ⟨fun inside => apart.1 ((List.prefix_cons_inj name).mpr inside),fun inside => apart.2 ((List.prefix_cons_inj name).mpr inside)⟩

theorem find_put_apart (json : Json) (apart : Apart path place) : (json.put place value).find path = json.find path := by
  induction place generalizing json path with
  | nil => exact absurd List.nil_prefix apart.2
  | cons name rest ih =>
    cases path with
    | nil => exact absurd List.nil_prefix apart.1
    | cons other path =>
      by_cases same : other = name
      · subst same
        have deeper := apart.tail
        cases rest with
        | nil => exact absurd List.nil_prefix deeper.2
        | cons next rest =>
          cases found : json.get other with
          | none => simp [put,found]
          | some child =>
            have object := get_isObject found
            simp [put,find,found,get_set_same object,ih child deeper]
      · cases rest with
        | nil => simp [put,find,get_set_other json same]
        | cons next rest =>
          cases found : json.get name with
          | none => simp [put,found]
          | some child => simp [put,find,found,get_set_other json same]

-- The object that an assignment to the place writes to.
def Holder (json : Json) (place : List String) : Prop := ∃ holder, json.find place.dropLast = some holder ∧ holder.isObject = true

theorem find_put_same {json : Json} (held : Holder json place) (filled : place ≠ []) :
    (json.put place value).find place = some value := by
  induction place generalizing json with
  | nil => exact absurd rfl filled
  | cons name rest ih =>
    obtain ⟨holder,found,object⟩ := held
    cases rest with
    | nil =>
      cases Option.some.inj found
      simp [put,find,get_set_same object]
    | cons next rest =>
      rw [List.dropLast_cons_cons] at found
      obtain ⟨child,known,deeper⟩ := Option.bind_eq_some_iff.mp found
      have written : (child.put (next :: rest) value).find (next :: rest) = some value := ih ⟨holder,deeper,object⟩ (by simp)
      simpa [put,find,known,get_set_same (get_isObject known)] using written

-- An assignment leaves an object where one was, unless it replaces it.
theorem put_object {json : Json} (outside : ¬ place <+: path) (found : json.find path = some holder)
    (object : holder.isObject = true) : ∃ kept, (json.put place value).find path = some kept ∧ kept.isObject = true := by
  induction place generalizing json path with
  | nil => exact absurd List.nil_prefix outside
  | cons name rest ih =>
    cases path with
    | nil =>
      cases Option.some.inj found
      refine ⟨_,rfl,?_⟩
      cases rest with
      | nil => rw [put,set_isObject,object]
      | cons next rest =>
        unfold put
        split
        · exact object
        · rw [set_isObject,object]
    | cons other path =>
      by_cases same : other = name
      · subst same
        have deeper : ¬ rest <+: path := fun inside => outside ((List.prefix_cons_inj other).mpr inside)
        obtain ⟨child,known,below⟩ := Option.bind_eq_some_iff.mp found
        cases rest with
        | nil => exact absurd List.nil_prefix deeper
        | cons next rest =>
          obtain ⟨kept,placed,still⟩ := ih deeper below
          exact ⟨kept,by simpa [put,find,known,get_set_same (get_isObject known)] using placed,still⟩
      · refine ⟨holder,?_,object⟩
        cases rest with
        | nil => simpa [put,find,get_set_other json same] using found
        | cons next rest =>
          cases known : json.get name with
          | none => simpa [put,known] using found
          | some child => simpa [put,find,known,get_set_other json same] using found

theorem put_holder {json : Json} (outside : ¬ place <+: other.dropLast) (held : Holder json other) :
    Holder (json.put place value) other := by
  obtain ⟨holder,found,object⟩ := held
  exact put_object outside found object

-- A sequence of assignments, of which some are left out.
def applyAll (json : Json) (assignments : List (List String × Option Json)) : Json :=
  assignments.foldl (fun json assignment =>
    match assignment.2 with
    | none => json
    | some value => json.put assignment.1 value) json

theorem find_applyAll_apart {assignments : List (List String × Option Json)} (json : Json)
    (apart : ∀ place ∈ assignments.map Prod.fst, Apart path place) : (applyAll json assignments).find path = json.find path := by
  induction assignments generalizing json with
  | nil => rfl
  | cons assignment rest ih =>
    obtain ⟨place,given⟩ := assignment
    have later (json : Json) := ih json (fun other member => apart other (List.mem_cons_of_mem place member))
    cases given with
    | none => exact later json
    | some value => exact (later (json.put place value)).trans (find_put_apart json (apart place List.mem_cons_self))

theorem apart_holder {json : Json} (apart : Apart place other) (held : Holder json other) : Holder (json.put place value) other :=
  put_holder (fun inside => apart.1 (inside.trans (List.dropLast_prefix other))) held

-- Assignments to places apart from each other do not disturb one another.
theorem find_applyAll_own {assignments : List (List String × Option Json)} {json : Json}
    (apart : (assignments.map Prod.fst).Pairwise Apart) (held : ∀ place ∈ assignments.map Prod.fst, place ≠ [] ∧ Holder json place)
    (member : (place,given) ∈ assignments) : (applyAll json assignments).find place = given.or (json.find place) := by
  induction assignments generalizing json with
  | nil => cases member
  | cons assignment rest ih =>
    obtain ⟨first,written⟩ := assignment
    obtain ⟨firstApart,restApart⟩ := List.pairwise_cons.mp apart
    obtain ⟨filled,holder⟩ := held first List.mem_cons_self
    have kept : ∀ other ∈ rest.map Prod.fst, other ≠ [] ∧ Holder json other :=
      fun other inRest => held other (List.mem_cons_of_mem first inRest)
    have moved (value : Json) : ∀ other ∈ rest.map Prod.fst, other ≠ [] ∧ Holder (json.put first value) other :=
      fun other inRest => ⟨(kept other inRest).1,apart_holder (firstApart other inRest) (kept other inRest).2⟩
    rcases List.mem_cons.mp member with same | later
    · cases same
      have untouched (json : Json) : (applyAll json rest).find place = json.find place := find_applyAll_apart json firstApart
      cases given with
      | none => exact untouched json
      | some value => exact (untouched _).trans (find_put_same holder filled)
    · have inRest : place ∈ rest.map Prod.fst := List.mem_map_of_mem later
      cases written with
      | none => exact ih restApart kept later
      | some value =>
        have own := ih restApart (moved value) later
        rw [find_put_apart json (firstApart place inRest).symm] at own
        exact own

end Json
end LiskMigrator
