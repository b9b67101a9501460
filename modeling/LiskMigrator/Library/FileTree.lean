import LiskMigrator.Library.Outcome
import Mathlib.Data.List.Dedup
import Mathlib.Data.List.Infix
import Mathlib.Data.List.Perm.Subperm

namespace LiskMigrator.FileTree
open Outcome

-- Where an entry is: the names on the way from the root.
abbrev Location := List String

inductive Entry (β : Type) where
  | directory
  | file (content : β)
deriving DecidableEq

inductive FileError where
  | exists
  | invalid
  | isDirectory
  | notDirectory
  | notEmpty
  | notFound
  | unfinished
  | usage
deriving DecidableEq

-- Finitely many entries, each in a directory.
structure Volume (β : Type) where
  find : Location → Option (Entry β)
  names : List Location
  named : ∀ path entry, find path = some entry → path ∈ names
  root : find [] = some .directory
  closed : ∀ path name entry, find (path ++ [name]) = some entry → find path = some .directory

abbrev Change (β α : Type) := Step FileError (Volume β) α

namespace Volume
variable {β : Type} (tree : Volume β)

def isDirectory (path : Location) : Bool :=
  match tree.find path with
  | some .directory => true
  | _ => false

theorem isDirectory_iff {tree : Volume β} : tree.isDirectory path = true ↔ tree.find path = some .directory := by
  unfold isDirectory
  cases tree.find path with
  | none => simp
  | some entry => cases entry <;> simp

theorem find_above {tree : Volume β} (rest : Location) (filled : rest ≠ []) (found : tree.find (path ++ rest) = some entry) :
    tree.find path = some .directory := by
  induction rest using List.reverseRecOn generalizing entry with
  | nil => exact absurd rfl filled
  | append_singleton before name ih =>
    rw [← List.append_assoc] at found
    have above := tree.closed (path ++ before) name entry found
    by_cases first : before = []
    · rw [first,List.append_nil] at above
      exact above
    · exact ih first above

theorem find_prefix {tree : Volume β} (before : path <+: below) (held : tree.find below = some .directory) :
    tree.find path = some .directory := by
  obtain ⟨rest,rfl⟩ := before
  by_cases same : rest = []
  · rw [same,List.append_nil] at held
    exact held
  · exact find_above rest same held

-- Below what is missing, or is a file, there is nothing.
theorem find_below {tree : Volume β} (rest : Location) (filled : rest ≠ []) (apart : tree.find path ≠ some .directory) :
    tree.find (path ++ rest) = none := by
  cases found : tree.find (path ++ rest) with
  | none => rfl
  | some entry => exact absurd (find_above rest filled found) apart

-- The way to an entry has as many entries as names, and they all differ.
theorem find_depth {tree : Volume β} (found : tree.find path = some entry) : path.length < tree.names.length := by
  let way := (List.range (path.length+1)).map (fun count => path.take count)
  have lengths : way.map List.length = List.range (path.length+1) := by
    rw [List.map_map]
    apply (List.map_congr_left _).trans (List.map_id _)
    intro count member
    have bound := List.mem_range.mp member
    exact List.length_take_of_le (by omega)
  have apart : way.Nodup := List.Nodup.of_map List.length (lengths ▸ List.nodup_range)
  have known : way ⊆ tree.names := by
    intro place member
    obtain ⟨count,_,rfl⟩ := List.mem_map.mp member
    by_cases last : path.drop count = []
    · have whole := List.take_append_drop count path
      rw [last,List.append_nil] at whole
      rw [whole]
      exact tree.named path entry found
    · exact tree.named _ .directory (find_above (path.drop count) last ((List.take_append_drop count path).symm ▸ found))
  have bound := (apart.subperm known).length_le
  rw [List.length_map,List.length_range] at bound
  omega

-- The root alone.
def bare : Volume β where
  find path := if path = [] then some .directory else none
  names := [[]]
  named := by
    intro path entry found
    split at found
    · rename_i root
      exact root ▸ List.mem_singleton_self []
    · cases found
  root := if_pos rfl
  closed := by
    intro path name entry found
    rw [if_neg (by simp)] at found
    cases found

theorem find_beyond {tree : Volume β} (absent : tree.find (path ++ [name]) = none) (rest : Location) :
    tree.find (path ++ name :: rest) = none := by
  rw [List.append_cons]
  cases rest with
  | nil => rw [List.append_nil,absent]
  | cons next rest => exact find_below (next :: rest) (by simp) (by rw [absent]; simp)

-- One entry is written. Its directory is there, and a directory stays one.
def put (path : Location) (entry : Entry β) (held : tree.find path.dropLast = some .directory)
    (kind : tree.find path = some .directory → entry = .directory) : Volume β where
  find place := if place = path then some entry else tree.find place
  names := path :: tree.names
  named := by
    intro place found located
    split at located
    · rename_i same
      exact same ▸ List.mem_cons_self
    · exact List.mem_cons_of_mem path (tree.named place found located)
  root := by
    split
    · rename_i same
      rw [kind (same ▸ tree.root)]
    · exact tree.root
  closed := by
    intro place name found located
    have shorter : place ≠ place ++ [name] := by simp
    split at located
    · rename_i same
      subst same
      rw [List.dropLast_concat] at held
      rw [if_neg shorter,held]
    · have above := tree.closed place name found located
      split
      · rename_i same
        rw [kind (same ▸ above)]
      · exact above

-- What is at or below `src` is taken to `dest`, in place of what is there.
def move (src dest : Location) (apart : ¬ src <+: dest) (filled : dest ≠ [])
    (held : tree.find dest.dropLast = some .directory) : Volume β where
  find place := if dest <+: place then tree.find (src ++ place.drop dest.length) else if src <+: place then none else tree.find place
  names := tree.names ++ tree.names.map (fun place => dest ++ place.drop src.length)
  named := by
    intro place entry located
    split at located
    · rename_i below
      obtain ⟨rest,rfl⟩ := below
      rw [List.drop_left] at located
      apply List.mem_append_right
      exact List.mem_map.mpr ⟨src ++ rest,tree.named _ _ located,by rw [List.drop_left]⟩
    · split at located
      · cases located
      · exact List.mem_append_left _ (tree.named place entry located)
  root := by
    have outside : ¬ src <+: [] := fun empty => apart (List.prefix_nil.mp empty ▸ List.nil_prefix)
    rw [if_neg (fun empty => filled (List.prefix_nil.mp empty)),if_neg outside]
    exact tree.root
  closed := by
    intro place name entry located
    split at located
    · rename_i below
      rcases List.prefix_concat_iff.mp below with same | before
      · subst same
        rw [List.dropLast_concat] at held
        have shorter : ¬ place ++ [name] <+: place := fun longer => absurd longer.length_le (by simp)
        rw [if_neg shorter,if_neg (fun inside => apart (inside.trans (List.prefix_append _ _)))]
        exact held
      · obtain ⟨rest,rfl⟩ := before
        rw [List.append_assoc,List.drop_left,← List.append_assoc] at located
        rw [if_pos (List.prefix_append dest rest),List.drop_left]
        exact tree.closed (src ++ rest) name entry located
    · rename_i outside
      split at located
      · cases located
      · rename_i elsewhere
        rw [if_neg (fun inside => outside (inside.trans (List.prefix_append _ _))),
          if_neg (fun inside => elsewhere (inside.trans (List.prefix_append _ _)))]
        exact tree.closed place name entry located

def childOf (path place : Location) : Option String := if place.dropLast = path then place.getLast? else none

theorem childOf_iff : childOf path place = some name ↔ place = path ++ [name] := by
  unfold childOf
  constructor
  · intro child
    split at child
    · rename_i above
      obtain ⟨before,rfl⟩ := List.getLast?_eq_some_iff.mp child
      rw [List.dropLast_concat] at above
      rw [above]
    · cases child
  · intro equal
    subst equal
    rw [List.dropLast_concat,if_pos rfl,List.getLast?_concat]

def children (path : Location) : List String :=
  ((tree.names.filterMap (childOf path)).dedup).filter (fun name => (tree.find (path ++ [name])).isSome)

theorem mem_children {tree : Volume β} : name ∈ tree.children path ↔ ∃ entry, tree.find (path ++ [name]) = some entry := by
  unfold children
  rw [List.mem_filter,List.mem_dedup,List.mem_filterMap,Option.isSome_iff_exists]
  constructor
  · exact And.right
  · intro given
    obtain ⟨entry,found⟩ := given
    exact ⟨⟨path ++ [name],tree.named _ entry found,childOf_iff.mpr rfl⟩,entry,found⟩

end Volume
section Calls
variable {β : Type}

-- mkdir, with `recursive` where it makes what is missing on the way.
def makeDirectory (path : Location) : Change β Unit := fun tree =>
  match fresh : tree.find path with
  | some _ => .error .exists tree
  | none =>
    if held : tree.isDirectory path.dropLast = true then
      .ok () (tree.put path .directory (Volume.isDirectory_iff.mp held) (by simp))
    else .error .notFound tree

def enterDirectory (path : Location) (error : FileError) : Change β Unit := fun tree =>
  match tree.find path with
  | none => makeDirectory path tree
  | some .directory => .ok () tree
  | some (.file _) => .error error tree

def makeDirs (base : Location) : List String → Change β Unit
  | [] => pure ()
  | name :: rest => do
    enterDirectory (base ++ [name]) (if rest = [] then .exists else .notDirectory)
    makeDirs (base ++ [name]) rest

-- readdir, with the types of the entries.
def readDirectory (path : Location) : Change β (List (String × Bool)) := fun tree =>
  match tree.find path with
  | none => .error .notFound tree
  | some (.file _) => .error .notDirectory tree
  | some .directory => .ok ((tree.children path).map (fun name => (name,tree.isDirectory (path ++ [name])))) tree

def writeFile (path : Location) (content : β) : Change β Unit := fun tree =>
  if held : tree.isDirectory path.dropLast = true ∧ tree.isDirectory path = false then
    .ok () (tree.put path (.file content) (Volume.isDirectory_iff.mp held.1)
      (fun taken => absurd (Volume.isDirectory_iff.mpr taken) (by rw [held.2]; exact Bool.false_ne_true)))
  else .error (if tree.isDirectory path then .isDirectory else .notFound) tree

def copyFile (src dest : Location) : Change β Unit := fun tree =>
  match tree.find src with
  | none => .error .notFound tree
  | some .directory => .error .isDirectory tree
  | some (.file content) => writeFile dest content tree

-- Whether an entry may take the place of what is at `dest`.
def replaces (tree : Volume β) (dest : Location) : Entry β → Option FileError
  | .directory =>
    match tree.find dest with
    | none => none
    | some .directory => if tree.children dest = [] then none else some .notEmpty
    | some (.file _) => some .notDirectory
  | .file _ =>
    match tree.find dest with
    | some .directory => some .isDirectory
    | _ => none

def rename (src dest : Location) : Change β Unit := fun tree =>
  match tree.find src with
  | none => .error .notFound tree
  | some entry =>
    if src = dest then .ok () tree
    else if apart : ¬ src <+: dest then
      if held : dest ≠ [] ∧ tree.isDirectory dest.dropLast = true then
        match replaces tree dest entry with
        | none => .ok () (tree.move src dest apart held.1 (Volume.isDirectory_iff.mp held.2))
        | some error => .error error tree
      else .error .notFound tree
    else .error .invalid tree

-- Where mv and cp put what they are given: a directory that is there takes it in.
def target (tree : Volume β) (src dest : Location) : Location :=
  if tree.isDirectory dest then dest ++ src.getLast?.toList else dest

def mv : List Location → Change β Unit
  | [src,dest] => fun tree => rename src (target tree src dest) tree
  | _ => throw .usage

-- cp goes on behind what it cannot copy.
def skipping (x : Change β Unit) : Change β Unit := fun tree => .ok () (left (x tree))

def copyTree : Nat → Location → Location → Change β Unit
  | 0,_,_ => throw .unfinished
  | depth+1,src,dest => fun tree =>
    match tree.find src with
    | some .directory => (do
        enterDirectory dest .notDirectory
        let entries ← readDirectory src
        entries.forM (fun entry => skipping (copyTree depth (src ++ [entry.1]) (dest ++ [entry.1]))) : Change β Unit) tree
    | _ => copyFile src dest tree

-- cp -r
def cp : List Location → Change β Unit
  | [src,dest] => fun tree => copyTree (tree.names.length+1) src (target tree src dest) tree
  | _ => throw .usage

end Calls

section Effects
variable {β : Type} {tree made : Volume β}

theorem makeDirectory_find (ran : makeDirectory path tree = .ok () made) (place : Location) :
    made.find place = if place = path then some .directory else tree.find place := by
  unfold makeDirectory at ran
  split at ran
  · cases ran
  · split at ran
    · cases ran
      rfl
    · cases ran

theorem enterDirectory_find (ran : enterDirectory path error tree = .ok () made) (place : Location) :
    made.find place = if place = path then some .directory else tree.find place := by
  unfold enterDirectory at ran
  split at ran
  · exact makeDirectory_find ran place
  · rename_i held
    cases ran
    split
    · rename_i same
      rw [same,held]
    · rfl
  · cases ran

theorem makeDirs_find (held : tree.find base = some .directory) (ran : makeDirs base rest tree = .ok () made)
    (place : Location) : made.find place = if place <+: base ++ rest then some .directory else tree.find place := by
  induction rest generalizing base tree with
  | nil =>
    cases ran
    split
    · rename_i before
      rw [List.append_nil] at before
      exact Volume.find_prefix before held
    · rfl
  | cons name rest ih =>
    obtain ⟨_,entered,first,rest_⟩ := step_ok.mp ran
    have found := enterDirectory_find first
    have later := ih (by rw [found,if_pos rfl]) rest_
    rw [List.append_assoc,List.singleton_append] at later
    rw [later,found]
    split
    · rfl
    · rename_i outside
      rw [if_neg]
      intro same
      exact outside (same ▸ ⟨rest,by simp⟩)

theorem makeDirs_held (held : tree.find (base ++ rest) = some .directory) : makeDirs base rest tree = .ok () tree := by
  induction rest generalizing base with
  | nil => rfl
  | cons name rest ih =>
    rw [List.append_cons] at held
    have first : tree.find (base ++ [name]) = some .directory := Volume.find_prefix (List.prefix_append _ rest) held
    have entered (error : FileError) : enterDirectory (base ++ [name]) error tree = .ok () tree := by
      unfold enterDirectory
      rw [first]
    exact step_ok.mpr ⟨(),tree,entered _,ih held⟩

theorem enterDirectory_runs (held : tree.find path.dropLast = some .directory)
    (clear : ∀ content, tree.find path ≠ some (.file content)) (error : FileError) :
    ∃ entered, enterDirectory path error tree = .ok () entered := by
  unfold enterDirectory
  split
  · rename_i absent
    unfold makeDirectory
    split
    · rename_i there
      rw [absent] at there
      cases there
    · rw [dif_pos (Volume.isDirectory_iff.mpr held)]
      exact ⟨_,rfl⟩
  · exact ⟨_,rfl⟩
  · rename_i content found
    exact absurd found (clear content)

-- A file on the way is all that stops it.
theorem makeDirs_runs (held : tree.find base = some .directory)
    (clear : ∀ place content, place <+: base ++ rest → tree.find place ≠ some (.file content)) :
    ∃ made, makeDirs base rest tree = .ok () made := by
  induction rest generalizing base tree with
  | nil => exact ⟨tree,rfl⟩
  | cons name rest ih =>
    have first : base ++ [name] <+: base ++ name :: rest := ⟨rest,by simp⟩
    have above : tree.find (base ++ [name]).dropLast = some .directory := by rwa [List.dropLast_concat]
    obtain ⟨entered,ran⟩ := enterDirectory_runs above (fun content => clear (base ++ [name]) content first)
      (if rest = [] then .exists else .notDirectory)
    have found := enterDirectory_find ran
    have later : ∀ place content, place <+: base ++ [name] ++ rest → entered.find place ≠ some (.file content) := by
      intro place content before
      rw [found]
      split
      · simp
      · rw [List.append_assoc,List.singleton_append] at before
        exact clear place content before
    obtain ⟨made,rest⟩ := ih (by rw [found,if_pos rfl]) later
    exact ⟨made,step_ok.mpr ⟨(),entered,ran,rest⟩⟩

theorem readDirectory_runs (held : tree.find path = some .directory) : readDirectory path tree =
    .ok ((tree.children path).map (fun name => (name,tree.isDirectory (path ++ [name])))) tree := by
  unfold readDirectory
  rw [held]

theorem readDirectory_ok (ran : readDirectory path tree = .ok files made) :
    made = tree ∧ files = (tree.children path).map (fun name => (name,tree.isDirectory (path ++ [name]))) ∧
      tree.find path = some .directory := by
  unfold readDirectory at ran
  split at ran
  · cases ran
  · cases ran
  · rename_i held
    cases ran
    exact ⟨rfl,rfl,held⟩

theorem writeFile_find (ran : writeFile path content tree = .ok () made) (place : Location) :
    made.find place = if place = path then some (.file content) else tree.find place := by
  unfold writeFile at ran
  split at ran
  · cases ran
    rfl
  · cases ran

theorem copyFile_find (ran : copyFile src dest tree = .ok () made) :
    ∃ content, tree.find src = some (.file content) ∧
      ∀ place, made.find place = if place = dest then some (.file content) else tree.find place := by
  unfold copyFile at ran
  split at ran
  · cases ran
  · cases ran
  · rename_i content found
    exact ⟨content,found,writeFile_find ran⟩

theorem writeFile_runs (held : tree.find path.dropLast = some .directory) (free : tree.find path ≠ some .directory) (content : β) :
    ∃ made, writeFile path content tree = .ok () made := by
  have plain : tree.isDirectory path = false := Bool.eq_false_iff.mpr (fun taken => free (Volume.isDirectory_iff.mp taken))
  unfold writeFile
  rw [dif_pos ⟨Volume.isDirectory_iff.mpr held,plain⟩]
  exact ⟨_,rfl⟩

theorem copyFile_runs (found : tree.find src = some (.file content)) (held : tree.find dest.dropLast = some .directory)
    (free : tree.find dest ≠ some .directory) : ∃ made, copyFile src dest tree = .ok () made := by
  unfold copyFile
  rw [found]
  exact writeFile_runs held free content

-- The source is there, the directory of the destination is, and the source may
-- take the place of what is at the destination.
structure Renamed (src dest : Location) (tree made : Volume β) : Prop where
  apart : ¬ src <+: dest
  held : tree.find dest.dropLast = some .directory
  replaced : ∃ entry, tree.find src = some entry ∧ replaces tree dest entry = none
  moved : ∀ place, made.find place =
    if dest <+: place then tree.find (src ++ place.drop dest.length) else if src <+: place then none else tree.find place

theorem rename_ok (ran : rename src dest tree = .ok () made) : src = dest ∧ made = tree ∨ Renamed src dest tree made := by
  unfold rename at ran
  split at ran
  · cases ran
  · rename_i entry found
    split at ran
    · rename_i same
      cases ran
      exact .inl ⟨same,rfl⟩
    · split at ran
      · rename_i apart
        split at ran
        · rename_i held
          split at ran
          · rename_i free
            cases ran
            exact .inr ⟨apart,Volume.isDirectory_iff.mp held.2,⟨entry,found,free⟩,fun _ => rfl⟩
          · cases ran
        · cases ran
      · cases ran

-- A directory takes the place of an empty one only.
theorem Renamed.empty (renamed : Renamed src dest tree made) (directory : tree.find src = some .directory)
    (there : tree.find dest = some entry) : entry = .directory ∧ ∀ name, tree.find (dest ++ [name]) = none := by
  obtain ⟨moved,found,free⟩ := renamed.replaced
  rw [directory] at found
  cases found
  unfold replaces at free
  rw [there] at free
  cases entry with
  | file content => cases free
  | directory =>
    by_cases empty : tree.children dest = []
    · refine ⟨rfl,fun name => ?_⟩
      cases below : tree.find (dest ++ [name]) with
      | none => rfl
      | some entry => exact absurd (Volume.mem_children.mpr ⟨entry,below⟩) (by rw [empty]; exact List.not_mem_nil)
    · simp only [if_neg empty] at free
      cases free

-- What cannot be renamed stays where it is.
theorem rename_stays (failed : rename src dest tree = .error error made) : made = tree := by
  unfold rename at failed
  split at failed
  · cases failed
    rfl
  · split at failed
    · cases failed
    · split at failed
      · split at failed
        · split at failed
          · cases failed
          · cases failed
            rfl
        · cases failed
          rfl
      · cases failed
        rfl

-- What is moved into an empty directory is all that it holds.
theorem Renamed.alone (renamed : Renamed src (dest ++ [base]) tree made) (empty : ∀ name, tree.find (dest ++ [name]) = none)
    (apart : name ≠ base) (rest : Location) : made.find (dest ++ name :: rest) = none := by
  have elsewhere : ¬ dest ++ [base] <+: dest ++ name :: rest := by
    rw [List.prefix_append_right_inj,List.cons_prefix_cons]
    exact fun same => apart same.1.symm
  rw [renamed.moved,if_neg elsewhere,Volume.find_beyond (empty name) rest]
  exact ite_self none

theorem mv_into (held : tree.find dest = some .directory) (parent : Location) (base : String) :
    mv [parent ++ [base],dest] tree = rename (parent ++ [base]) (dest ++ [base]) tree := by
  have into : target tree (parent ++ [base]) dest = dest ++ [base] := by
    unfold target
    rw [if_pos (Volume.isDirectory_iff.mpr held),List.getLast?_concat]
    rfl
  change rename _ (target tree (parent ++ [base]) dest) tree = _
  rw [into]

theorem mv_onto (absent : tree.find dest ≠ some .directory) : mv [src,dest] tree = rename src dest tree := by
  have onto : target tree src dest = dest := if_neg (fun held => absent (Volume.isDirectory_iff.mp held))
  change rename src (target tree src dest) tree = _
  rw [onto]

end Effects
end LiskMigrator.FileTree
