import LiskMigrator.Library.FileTree

namespace LiskMigrator
open FileTree Outcome

-- The calls nest as deeply as the directories of the source do; the first
-- argument bounds them.
def copyDir : Nat → Location → Location → Change β Unit
  | 0,_,_ => throw .unfinished
  | depth+1,src,dest => do
    makeDirs [] dest
    let files ← readDirectory src
    files.forM (fun fileInfo =>
      if fileInfo.2 then copyDir depth (src ++ [fileInfo.1]) (dest ++ [fileInfo.1])
      else copyFile (src ++ [fileInfo.1]) (dest ++ [fileInfo.1]))

section Overlay
variable {β : Type} {src dest : Location} {tree now later made : Volume β}

-- What is copied lies over what was there, and the way to it is made.
def Overlaid (src dest : Location) (tree made : Volume β) : Prop := ∀ place, made.find place =
  if dest <+: place then (tree.find (src ++ place.drop dest.length)).or (tree.find place)
  else if place <+: dest then some .directory else tree.find place

theorem Overlaid.below (overlaid : Overlaid src dest tree made) (rest : Location) :
    made.find (dest ++ rest) = (tree.find (src ++ rest)).or (tree.find (dest ++ rest)) := by
  rw [overlaid,if_pos (List.prefix_append dest rest),List.drop_left]

-- The same, as long as only the entries under these names are copied.
def Copied (src dest : Location) (names : List String) (tree now : Volume β) : Prop := ∀ place, now.find place =
  if ∃ name ∈ names, dest ++ [name] <+: place then (tree.find (src ++ place.drop dest.length)).or (tree.find place)
  else if place <+: dest then some .directory else tree.find place

structure Separate (src dest : Location) : Prop where
  outside : ¬ src <+: dest
  around : ¬ dest <+: src

theorem Separate.below (separate : Separate src dest) (name : String) : Separate (src ++ [name]) (dest ++ [name]) := by
  have lift {one two : Location} (apart : ¬ one <+: two) : ¬ one ++ [name] <+: two ++ [name] := by
    intro inside
    rcases List.prefix_concat_iff.mp inside with same | before
    · have equal : one = two := by simpa using same
      exact apart (equal ▸ List.prefix_rfl)
    · exact apart ((List.prefix_append one [name]).trans before)
  exact ⟨lift separate.outside,lift separate.around⟩

theorem Separate.apart (separate : Separate src dest) (rest : Location) : ¬ dest <+: src ++ rest := by
  intro inside
  rcases List.prefix_or_prefix_of_prefix inside (List.prefix_append src rest) with before | before
  · exact separate.around before
  · exact separate.outside before

-- The source has all that the copying would put in it.
structure Undisturbed (src dest : Location) (tree : Volume β) : Prop where
  above : ∀ rest, src ++ rest <+: dest → tree.find (src ++ rest) = some .directory
  known : ∀ rest other entry, src ++ rest = dest ++ other → tree.find (src ++ other) = some entry →
    tree.find (src ++ rest) = some entry

theorem Separate.undisturbed (separate : Separate src dest) (tree : Volume β) : Undisturbed src dest tree where
  above rest before := absurd ((List.prefix_append src rest).trans before) separate.outside
  known rest other _ same := absurd ⟨other,same.symm⟩ (separate.apart rest)

theorem Undisturbed.same (undisturbed : Undisturbed src dest tree) (equal : src ++ rest = dest ++ other) :
    (tree.find (src ++ other)).or (tree.find (src ++ rest)) = tree.find (src ++ rest) := by
  cases found : tree.find (src ++ other) with
  | none => exact Option.none_or
  | some entry =>
    rw [undisturbed.known rest other entry equal found]
    rfl

-- The source is not touched.
theorem Copied.source (copied : Copied src dest names tree now) (undisturbed : Undisturbed src dest tree) (rest : Location) :
    now.find (src ++ rest) = tree.find (src ++ rest) := by
  rw [copied]
  split
  · rename_i given
    obtain ⟨name,_,other,below⟩ := given
    have equal : src ++ rest = dest ++ ([name] ++ other) := by rw [← below,List.append_assoc]
    have copy : src ++ (src ++ rest).drop dest.length = src ++ ([name] ++ other) := by rw [equal,List.drop_left]
    rw [copy]
    exact undisturbed.same equal
  · split
    · rename_i before
      exact (undisturbed.above rest before).symm
    · rfl

theorem deeper {place : Location} (below : dest ++ [name] <+: place) : ¬ place <+: dest :=
  fun before => absurd (below.trans before).length_le (by simp)

-- One more entry has been copied.
theorem Copied.add (copied : Copied src dest names tree now)
    (step : ∀ place, later.find place = if dest ++ [name] <+: place
      then (tree.find (src ++ place.drop dest.length)).or (now.find place) else now.find place) :
    Copied src dest (name :: names) tree later := by
  intro place
  rw [step]
  by_cases here : dest ++ [name] <+: place
  · rw [if_pos here,if_pos ⟨name,List.mem_cons_self,here⟩,copied]
    split
    · cases tree.find (src ++ place.drop dest.length) with
      | none => rfl
      | some entry => rfl
    · rw [if_neg (deeper here)]
  · rw [if_neg here,copied]
    have same : (∃ other ∈ name :: names, dest ++ [other] <+: place) ↔ ∃ other ∈ names, dest ++ [other] <+: place := by
      simp [here]
    rw [if_congr same rfl rfl]

theorem drop_below {place : Location} (here : dest ++ [name] <+: place) :
    src ++ place.drop dest.length = src ++ [name] ++ place.drop (dest ++ [name]).length := by
  obtain ⟨rest,rfl⟩ := here
  rw [List.drop_left,List.append_assoc,List.drop_left,List.append_assoc]

theorem Copied.directory (copied : Copied src dest names tree now) (undisturbed : Undisturbed src dest tree)
    (overlaid : Overlaid (src ++ [name]) (dest ++ [name]) now later) : Copied src dest (name :: names) tree later := by
  apply copied.add
  intro place
  rw [overlaid]
  by_cases here : dest ++ [name] <+: place
  · rw [if_pos here,if_pos here,← drop_below here,copied.source undisturbed]
  · rw [if_neg here,if_neg here]
    split
    · rename_i before
      rcases List.prefix_concat_iff.mp before with same | above
      · exact absurd (same ▸ List.prefix_rfl) here
      · have outside : ¬ ∃ other ∈ names, dest ++ [other] <+: place := by
          intro given
          obtain ⟨other,_,below⟩ := given
          exact deeper below above
        rw [copied,if_neg outside,if_pos above]
    · rfl

theorem Copied.file (copied : Copied src dest names tree now) (undisturbed : Undisturbed src dest tree)
    (ran : copyFile (src ++ [name]) (dest ++ [name]) now = .ok () later) : Copied src dest (name :: names) tree later := by
  obtain ⟨content,found,written⟩ := copyFile_find ran
  rw [copied.source undisturbed] at found
  apply copied.add
  intro place
  rw [written]
  by_cases here : dest ++ [name] <+: place
  · rw [if_pos here,drop_below here]
    obtain ⟨rest,rfl⟩ := here
    rw [List.drop_left]
    by_cases last : rest = []
    · rw [last,List.append_nil,if_pos rfl,List.append_nil,found,Option.some_or]
    · have missing : tree.find (src ++ [name] ++ rest) = none := Volume.find_below rest last (by rw [found]; simp)
      rw [if_neg (by simpa using last),missing,Option.none_or]
  · rw [if_neg here,if_neg]
    intro equal
    subst equal
    exact here List.prefix_rfl

theorem copyAll_copied {depth : Nat} (undisturbed : Undisturbed src dest tree)
    (deep : ∀ (name : String) (now later : Volume β), copyDir depth (src ++ [name]) (dest ++ [name]) now = .ok () later →
      Overlaid (src ++ [name]) (dest ++ [name]) now later)
    (files : List (String × Bool)) (copied : Copied src dest names tree now)
    (ran : files.forM (fun fileInfo =>
      if fileInfo.2 then copyDir depth (src ++ [fileInfo.1]) (dest ++ [fileInfo.1])
      else copyFile (src ++ [fileInfo.1]) (dest ++ [fileInfo.1])) now = .ok () made) :
    Copied src dest ((files.map Prod.fst).reverse ++ names) tree made := by
  induction files generalizing now names with
  | nil =>
    cases ran
    exact copied
  | cons fileInfo files ih =>
    obtain ⟨name,isDirectory⟩ := fileInfo
    obtain ⟨_,later,first,rest⟩ := step_ok.mp ran
    have added : Copied src dest (name :: names) tree later := by
      cases isDirectory with
      | true => exact copied.directory undisturbed (deep name now later first)
      | false => exact copied.file undisturbed first
    rw [List.map_cons,List.reverse_cons,List.append_assoc]
    exact ih added rest

-- With all of the source's entries copied, the source lies over the destination.
theorem Copied.overlaid (copied : Copied src dest names tree made) (held : tree.find src = some .directory)
    (all : ∀ name entry, tree.find (src ++ [name]) = some entry → name ∈ names) : Overlaid src dest tree made := by
  intro place
  rw [copied]
  by_cases below : dest <+: place
  · obtain ⟨rest,rfl⟩ := below
    rw [if_pos (List.prefix_append dest rest),List.drop_left]
    cases rest with
    | nil =>
      have outside : ¬ ∃ name ∈ names, dest ++ [name] <+: dest ++ [] := by
        intro given
        obtain ⟨name,_,inside⟩ := given
        exact deeper inside (by rw [List.append_nil])
      rw [if_neg outside,List.append_nil,if_pos List.prefix_rfl,List.append_nil,held,Option.some_or]
    | cons name rest =>
      have child : dest ++ [name] <+: dest ++ name :: rest := ⟨rest,by simp⟩
      by_cases known : name ∈ names
      · rw [if_pos ⟨name,known,child⟩]
      · have outside : ¬ ∃ other ∈ names, dest ++ [other] <+: dest ++ name :: rest := by
          intro given
          obtain ⟨other,member,inside⟩ := given
          rw [List.prefix_append_right_inj,List.cons_prefix_cons] at inside
          exact known (inside.1 ▸ member)
        have absent : tree.find (src ++ [name]) = none := by
          cases there : tree.find (src ++ [name]) with
          | none => rfl
          | some entry => exact absurd (all name entry there) known
        rw [if_neg outside,if_neg (deeper child),Volume.find_beyond absent rest,Option.none_or]
  · rw [if_neg below,if_neg]
    intro given
    obtain ⟨name,_,inside⟩ := given
    exact below ((List.prefix_append dest [name]).trans inside)

-- The way is made and nothing is copied yet.
theorem Copied.start (way : makeDirs [] dest tree = .ok () now) : Copied src dest [] tree now := by
  intro place
  have found := makeDirs_find tree.root way place
  rw [List.nil_append] at found
  rw [found]
  exact (if_neg (by simp)).symm

-- The entries that are listed once the way is made are those of the source.
theorem Copied.listed (start : Copied src dest [] tree now) (undisturbed : Undisturbed src dest tree)
    (held : tree.find src = some .directory) (kinds : String → Bool)
    (copied : Copied src dest ((((now.children src).map (fun name => (name,kinds name))).map Prod.fst).reverse ++ []) tree made) :
    Overlaid src dest tree made := by
  apply copied.overlaid held
  intro name entry found
  rw [List.map_map,List.append_nil,List.mem_reverse]
  exact List.mem_map.mpr ⟨name,Volume.mem_children.mpr ⟨entry,(start.source undisturbed [name]).trans found⟩,rfl⟩

theorem copyDir_overlaid (depth : Nat) (separate : Separate src dest) (ran : copyDir depth src dest tree = .ok () made) :
    tree.find src = some .directory ∧ Overlaid src dest tree made := by
  induction depth generalizing src dest tree made with
  | zero => cases ran
  | succ depth ih =>
    have undisturbed := separate.undisturbed tree
    obtain ⟨_,entered,way,ran⟩ := step_ok.mp ran
    obtain ⟨files,_,listed,ran⟩ := step_ok.mp ran
    obtain ⟨same,list,held⟩ := readDirectory_ok listed
    rw [same,list] at ran
    have start : Copied src dest [] tree entered := .start way
    have copied := copyAll_copied undisturbed (fun name _ _ ran => (ih (separate.below name) ran).2) _ start ran
    have source : tree.find src = some .directory := by
      have kept := start.source undisturbed []
      rw [List.append_nil] at kept
      exact kept ▸ held
    exact ⟨source,start.listed undisturbed source _ copied⟩

end Overlay

section Termination
variable {β : Type} {src dest : Location} {tree now made : Volume β}

-- Nothing stands in the way of the copying.
structure Copyable (src dest : Location) (tree : Volume β) : Prop where
  source : tree.find src = some .directory
  clear : ∀ place content, place <+: dest → tree.find place ≠ some (.file content)
  agree : ∀ rest one other, tree.find (src ++ rest) = some one → tree.find (dest ++ rest) = some other →
    (one = .directory ↔ other = .directory)
  undisturbed : Undisturbed src dest tree

-- What lies below the destination was there, or comes from the source.
theorem Copied.origin (copied : Copied src dest names tree now) (found : now.find (dest ++ name :: rest) = some entry) :
    tree.find (src ++ name :: rest) = some entry ∨ tree.find (dest ++ name :: rest) = some entry := by
  have child : dest ++ [name] <+: dest ++ name :: rest := ⟨rest,by simp⟩
  rw [copied,if_neg (deeper child),List.drop_left] at found
  split at found
  · exact Option.or_eq_some_iff.mp found |>.imp_right And.right
  · exact .inr found

theorem Copied.way (copied : Copied src dest names tree now) (before : place <+: dest) : now.find place = some .directory := by
  have outside : ¬ ∃ name ∈ names, dest ++ [name] <+: place := by
    intro given
    obtain ⟨name,_,below⟩ := given
    exact deeper below before
  rw [copied,if_neg outside,if_pos before]

theorem Undisturbed.below (undisturbed : Undisturbed src dest tree) (copied : Copied src dest names tree now)
    (held : tree.find (src ++ [name]) = some .directory) : Undisturbed (src ++ [name]) (dest ++ [name]) now where
  above rest before := by
    rw [List.append_assoc] at before ⊢
    rw [copied.source undisturbed]
    rcases List.prefix_concat_iff.mp before with same | above
    · exact undisturbed.known ([name] ++ rest) [name] .directory same held
    · exact undisturbed.above ([name] ++ rest) above
  known rest other entry same found := by
    rw [List.append_assoc,copied.source undisturbed] at found ⊢
    rw [List.append_assoc,List.append_assoc] at same
    exact undisturbed.known ([name] ++ rest) ([name] ++ other) entry same found

theorem Copyable.below (copyable : Copyable src dest tree) (copied : Copied src dest names tree now)
    (held : tree.find (src ++ [name]) = some .directory) : Copyable (src ++ [name]) (dest ++ [name]) now where
  source := (copied.source copyable.undisturbed [name]).trans held
  clear place content before := by
    rcases List.prefix_concat_iff.mp before with rfl | above
    · intro found
      rcases copied.origin found with ours | theirs
      · rw [held] at ours
        cases ours
      · have same := (copyable.agree [name] .directory _ held theirs).mp rfl
        cases same
    · rw [copied.way above]
      simp
  agree rest one other found there := by
    rw [List.append_assoc,List.singleton_append] at found there
    rw [copied.source copyable.undisturbed] at found
    rcases copied.origin there with ours | theirs
    · rw [found] at ours
      cases ours
      rfl
    · exact copyable.agree (name :: rest) one other found theirs
  undisturbed := copyable.undisturbed.below copied held

theorem Copyable.file (copyable : Copyable src dest tree) (copied : Copied src dest names tree now)
    (found : tree.find (src ++ [name]) = some (.file content)) :
    ∃ later, copyFile (src ++ [name]) (dest ++ [name]) now = .ok () later := by
  apply copyFile_runs ((copied.source copyable.undisturbed [name]).trans found)
  · rw [List.dropLast_concat]
    exact copied.way List.prefix_rfl
  · intro taken
    rcases copied.origin taken with ours | theirs
    · rw [found] at ours
      cases ours
    · have same := (copyable.agree [name] _ .directory found theirs).mpr rfl
      cases same

-- The listing is that of the source before the copying: what is copied meanwhile
-- changes nothing in it.
theorem copyAll_runs {depth : Nat} (copyable : Copyable src dest tree)
    (deep : ∀ (name : String) (names : List String) (now : Volume β), tree.find (src ++ [name]) = some .directory →
      Copied src dest names tree now → ∃ later, copyDir depth (src ++ [name]) (dest ++ [name]) now = .ok () later ∧
        Overlaid (src ++ [name]) (dest ++ [name]) now later)
    (files : List (String × Bool))
    (listed : ∀ fileInfo ∈ files, (tree.find (src ++ [fileInfo.1])).isSome ∧ fileInfo.2 = tree.isDirectory (src ++ [fileInfo.1]))
    (copied : Copied src dest names tree now) :
    ∃ made, files.forM (fun fileInfo =>
      if fileInfo.2 then copyDir depth (src ++ [fileInfo.1]) (dest ++ [fileInfo.1])
      else copyFile (src ++ [fileInfo.1]) (dest ++ [fileInfo.1])) now = .ok () made ∧
      Copied src dest ((files.map Prod.fst).reverse ++ names) tree made := by
  induction files generalizing now names with
  | nil => exact ⟨now,rfl,copied⟩
  | cons fileInfo files ih =>
    obtain ⟨name,isDirectory⟩ := fileInfo
    obtain ⟨present,kind⟩ := listed (name,isDirectory) List.mem_cons_self
    have remaining := fun other member => listed other (List.mem_cons_of_mem _ member)
    have first : ∃ later, (if isDirectory then copyDir depth (src ++ [name]) (dest ++ [name])
        else copyFile (src ++ [name]) (dest ++ [name])) now = .ok () later ∧ Copied src dest (name :: names) tree later := by
      cases isDirectory with
      | true =>
        obtain ⟨later,ran,overlaid⟩ := deep name names now (Volume.isDirectory_iff.mp kind.symm) copied
        exact ⟨later,ran,copied.directory copyable.undisturbed overlaid⟩
      | false =>
        obtain ⟨entry,found⟩ := Option.isSome_iff_exists.mp present
        cases entry with
        | directory =>
          rw [Volume.isDirectory_iff.mpr found] at kind
          cases kind
        | file content =>
          obtain ⟨later,ran⟩ := copyable.file copied found
          exact ⟨later,ran,copied.file copyable.undisturbed ran⟩
    obtain ⟨later,ran,added⟩ := first
    obtain ⟨made,rest,whole⟩ := ih remaining added
    refine ⟨made,step_ok.mpr ⟨(),later,ran,rest⟩,?_⟩
    rw [List.map_cons,List.reverse_cons,List.append_assoc]
    exact whole

-- By induction on the depth, which bounds how deep the directories of the source lie.
theorem copyDir_runs (depth : Nat) (copyable : Copyable src dest tree)
    (deep : ∀ rest, tree.find (src ++ rest) = some .directory → rest.length < depth) :
    ∃ made, copyDir depth src dest tree = .ok () made ∧ Overlaid src dest tree made := by
  induction depth generalizing src dest tree with
  | zero =>
    have nothing := deep [] (by rw [List.append_nil]; exact copyable.source)
    exact absurd nothing (Nat.not_lt_zero _)
  | succ depth ih =>
    obtain ⟨entered,way⟩ := makeDirs_runs tree.root (fun place content before => copyable.clear place content before)
    have start : Copied src dest [] tree entered := .start way
    have source := start.source copyable.undisturbed
    have held : entered.find src = some .directory := by
      have kept := source []
      rw [List.append_nil] at kept
      exact kept.trans copyable.source
    have nested (name : String) (names : List String) (now : Volume β) (directory : tree.find (src ++ [name]) = some .directory)
        (copied : Copied src dest names tree now) :
        ∃ later, copyDir depth (src ++ [name]) (dest ++ [name]) now = .ok () later ∧
          Overlaid (src ++ [name]) (dest ++ [name]) now later := by
      apply ih (copyable.below copied directory)
      intro rest found
      rw [List.append_assoc,copied.source copyable.undisturbed] at found
      have bound := deep ([name] ++ rest) found
      rw [List.length_append,List.length_singleton] at bound
      omega
    have listed : ∀ fileInfo ∈ (entered.children src).map (fun name => (name,entered.isDirectory (src ++ [name]))),
        (tree.find (src ++ [fileInfo.1])).isSome ∧ fileInfo.2 = tree.isDirectory (src ++ [fileInfo.1]) := by
      intro fileInfo member
      obtain ⟨name,child,rfl⟩ := List.mem_map.mp member
      obtain ⟨entry,found⟩ := Volume.mem_children.mp child
      refine ⟨Option.isSome_iff_exists.mpr ⟨entry,(source [name]).symm.trans found⟩,?_⟩
      unfold Volume.isDirectory
      rw [source [name]]
    obtain ⟨made,ran,copied⟩ := copyAll_runs copyable nested _ listed start
    refine ⟨made,?_,start.listed copyable.undisturbed copyable.source _ copied⟩
    exact step_ok.mpr ⟨(),entered,way,step_ok.mpr ⟨_,entered,readDirectory_runs held,ran⟩⟩

theorem copyDir_succ (ran : copyDir depth src dest tree = .ok () made) : copyDir (depth+1) src dest tree = .ok () made := by
  induction depth generalizing src dest tree made with
  | zero => cases ran
  | succ depth ih =>
    obtain ⟨_,entered,way,ran⟩ := step_ok.mp ran
    obtain ⟨files,listing,listed,ran⟩ := step_ok.mp ran
    refine step_ok.mpr ⟨(),entered,way,step_ok.mpr ⟨files,listing,listed,forM_runs ?_ ran⟩⟩
    intro fileInfo now later first
    cases kind : fileInfo.2 with
    | true =>
      rw [kind] at first
      exact ih first
    | false =>
      rw [kind] at first
      exact first

-- More depth than the source needs changes nothing.
theorem copyDir_deeper (ran : copyDir depth src dest tree = .ok () made) (more : depth ≤ further) :
    copyDir further src dest tree = .ok () made := by
  induction more with
  | refl => exact ran
  | step _ ih => exact copyDir_succ ih

end Termination
end LiskMigrator
