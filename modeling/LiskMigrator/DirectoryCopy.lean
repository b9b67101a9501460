import LiskMigrator.ManualRecovery

namespace LiskMigrator
open FileTree Interaction Outcome

section Conditions
variable {β : Type} {src dest : Location} {tree made : Volume β}

-- What copyDir is asked for: a directory, a destination that is not inside it, and
-- nowhere a file where the other one has a directory.
structure Asked (src dest : Location) (tree : Volume β) : Prop where
  source : tree.find src = some .directory
  outside : src <+: dest → src = dest
  agree : ∀ rest one other, tree.find (src ++ rest) = some one → tree.find (dest ++ rest) = some other →
    (one = .directory ↔ other = .directory)

-- And what it needs: no file on the way, and a source that already has what would
-- come to lie in it when it is inside the destination.
structure Ready (src dest : Location) (tree : Volume β) : Prop extends Asked src dest tree where
  clear : ∀ place content, place <+: dest → place ≠ dest → tree.find place ≠ some (.file content)
  harmless : ∀ rest other entry, src ++ rest = dest ++ other → tree.find (src ++ other) = some entry →
    tree.find (src ++ rest) = some entry

-- The source lies over what the destination had, and is as it was.
structure Laid (src dest : Location) (tree made : Volume β) : Prop where
  overlay : ∀ rest, made.find (dest ++ rest) = (tree.find (src ++ rest)).or (tree.find (dest ++ rest))
  source : ∀ rest, made.find (src ++ rest) = tree.find (src ++ rest)

-- Outside the destination nothing changes, or only the way to it is made.
def Unchanged (dest : Location) (tree made : Volume β) : Prop :=
  ∀ place, ¬ dest <+: place → made.find place = tree.find place

def OnlyWay (dest : Location) (tree made : Volume β) : Prop := ∀ place, ¬ dest <+: place →
  made.find place = tree.find place ∨ tree.find place = none ∧ place <+: dest ∧ made.find place = some .directory

theorem Ready.undisturbed (ready : Ready src dest tree) : Undisturbed src dest tree where
  above rest before := by
    have same := ready.outside ((List.prefix_append src rest).trans before)
    rw [← same] at before
    have short := before.length_le
    rw [List.length_append] at short
    have empty : rest = [] := List.length_eq_zero_iff.mp (by omega)
    rw [empty,List.append_nil]
    exact ready.source
  known := ready.harmless

theorem Ready.copyable (ready : Ready src dest tree) : Copyable src dest tree where
  source := ready.source
  clear place content before := by
    by_cases last : place = dest
    · intro found
      have kinds := ready.agree [] .directory (.file content) (by rw [List.append_nil]; exact ready.source)
        (by rw [List.append_nil,← last]; exact found)
      have same := kinds.mp rfl
      cases same
    · exact ready.clear place content before last
  agree := ready.agree
  undisturbed := ready.undisturbed

theorem Overlaid.laid (overlaid : Overlaid src dest tree made) (undisturbed : Undisturbed src dest tree) : Laid src dest tree made where
  overlay := overlaid.below
  source rest := by
    rw [overlaid]
    split
    · rename_i below
      obtain ⟨other,equal⟩ := below
      have copy : src ++ (src ++ rest).drop dest.length = src ++ other := by rw [← equal,List.drop_left]
      rw [copy]
      exact undisturbed.same equal.symm
    · split
      · rename_i before
        exact (undisturbed.above rest before).symm
      · rfl

theorem Overlaid.onlyWay (overlaid : Overlaid src dest tree made) (ready : Ready src dest tree) : OnlyWay dest tree made := by
  intro place outside
  rw [overlaid,if_neg outside]
  split
  · rename_i before
    have apart : place ≠ dest := fun same => outside (same ▸ List.prefix_rfl)
    cases found : tree.find place with
    | none => exact .inr ⟨rfl,before,rfl⟩
    | some entry =>
      cases entry with
      | directory => exact .inl rfl
      | file content => exact absurd found (ready.clear place content before apart)
  · exact .inl rfl

theorem Ready.runs (ready : Ready src dest tree) :
    ∃ made, (∀ depth, tree.names.length ≤ depth → copyDir depth src dest tree = .ok () made) ∧ Overlaid src dest tree made := by
  have deep : ∀ rest, tree.find (src ++ rest) = some .directory → rest.length < tree.names.length := by
    intro rest found
    have bound := Volume.find_depth found
    rw [List.length_append] at bound
    omega
  obtain ⟨made,ran,overlaid⟩ := copyDir_runs tree.names.length ready.copyable deep
  exact ⟨made,fun _ more => copyDir_deeper ran more,overlaid⟩

theorem copyDir_lays (ready : Ready src dest tree) :
    ∃ made, (∀ depth, tree.names.length ≤ depth → copyDir depth src dest tree = .ok () made) ∧
      Laid src dest tree made ∧ OnlyWay dest tree made := by
  obtain ⟨made,ran,overlaid⟩ := ready.runs
  exact ⟨made,ran,overlaid.laid ready.undisturbed,overlaid.onlyWay ready⟩

-- Only entries that are there can clash.
theorem agrees (all : ∀ place ∈ tree.names, src <+: place → tree.find (dest ++ place.drop src.length) = none ∨
    (tree.find place = some .directory ↔ tree.find (dest ++ place.drop src.length) = some .directory)) :
    ∀ rest one other, tree.find (src ++ rest) = some one → tree.find (dest ++ rest) = some other →
      (one = .directory ↔ other = .directory) := by
  intro rest one other found there
  have checked := all (src ++ rest) (tree.named _ one found) (List.prefix_append src rest)
  rw [List.drop_left,found,there] at checked
  rcases checked with absent | same
  · cases absent
  · exact ⟨fun equal => Option.some.inj (same.mp (congrArg some equal)),fun equal => Option.some.inj (same.mpr (congrArg some equal))⟩

end Conditions

section Legacy
variable {host : Host} {fault : FileError → Fault} {disk : Disk} {world : World migrator} {s : Session migrator Store}

-- The snapshot and the legacy data lie apart, so that nothing of the one comes to
-- lie in the other.
theorem Asked.ready (asked : Asked (snapshotLocation host) (legacyLocation host) disk)
    (clear : ∀ place content, place <+: legacyLocation host → place ≠ legacyLocation host → disk.find place ≠ some (.file content)) :
    Ready (snapshotLocation host) (legacyLocation host) disk where
  toAsked := asked
  clear := clear
  harmless := (separate_snapshot.undisturbed disk).known

theorem copyLegacyDB_lays (plain : Words.Patternless host.homedir.toList) (onDisk : OnDisk host fault disk world)
    (asked : Asked (snapshotLocation host) (legacyLocation host) (diskAfter host disk s.events))
    (clear : ∀ place content, place <+: legacyLocation host → place ≠ legacyLocation host →
      (diskAfter host disk s.events).find place ≠ some (.file content)) :
    Ends (copyLegacyDB host world) s
      (fun _ t => Laid (snapshotLocation host) (legacyLocation host) (diskAfter host disk s.events) (diskAfter host disk t.events) ∧
        OnlyWay (legacyLocation host) (diskAfter host disk s.events) (diskAfter host disk t.events))
      (fun _ _ => False) := by
  have ready := asked.ready clear
  obtain ⟨made,ran,overlaid⟩ := ready.runs
  have copied := ran ((diskAfter host disk s.events).names.length+1) (Nat.le_succ _)
  rw [← locate_snapshot,← locate_legacy plain] at copied
  apply ends_handle (fun _ _ => False)
  · apply ends_settled
    apply ends_ask
    intro reply replied
    have answered := replied.trans (onDisk.copyDir _ _ _)
    rw [copied] at answered
    have after : diskAfter host disk
        (⟨.copyDir (Path.resolve host.cwd [liskV3BackupDataDir host.homedir,snapshotDir]) (resolveAbsolutePath host legacyDbPath),
          reply⟩ :: s.events) = made := congrArg left copied
    rw [answered] at after ⊢
    change Laid _ _ _ (diskAfter host disk (_ :: s.events)) ∧ OnlyWay _ _ (diskAfter host disk (_ :: s.events))
    rw [after]
    exact ⟨overlaid.laid ready.undisturbed,overlaid.onlyWay ready⟩
  · exact fun _ _ never => never.elim

end Legacy

namespace Sample

def made (dirs : List Location) (files : List Location) : Volume String :=
  left ((do
    dirs.forM (makeDirs [])
    files.forM (fun path => writeFile path "data") : Change String Unit) Volume.bare)

def nested : Volume String := made [["a","b","b"]] [["a","b","b","file"]]

def bareWay : Volume String := made [["src"]] []

def blockedWay : Volume String := made [["src"]] [["way"]]

-- A source inside its destination, with nothing that leads back into it.
def inner : Volume String :=
  made [["dest","src","one","two"],["dest","one"]] [["dest","src","one","file"],["dest","one","file"],["dest","old"]]

theorem inner_ready : Ready ["dest","src"] ["dest"] inner where
  source := by decide +kernel
  outside := by decide +kernel
  agree := agrees (by decide +kernel)
  clear place content before apart := by
    have way : place = [] := by
      cases place with
      | nil => rfl
      | cons name rest =>
        obtain ⟨rfl,below⟩ := List.cons_prefix_cons.mp before
        exact absurd (congrArg _ (List.prefix_nil.mp below)) apart
    rw [way,inner.root]
    simp
  harmless rest other entry same found := by
    have absent : inner.find (["dest","src"] ++ ["src"]) = none := by decide +kernel
    have back : other = "src" :: rest := (List.cons.inj same).2.symm
    rw [back,Volume.find_beyond absent rest] at found
    cases found

end Sample

theorem copyDir_sample : Ready ["dest","src"] ["dest"] Sample.inner ∧
    ∃ made, (∀ depth, Sample.inner.names.length ≤ depth → copyDir depth ["dest","src"] ["dest"] Sample.inner = .ok () made) ∧
      Laid ["dest","src"] ["dest"] Sample.inner made ∧ OnlyWay ["dest"] Sample.inner made :=
  ⟨Sample.inner_ready,copyDir_lays Sample.inner_ready⟩

-- A source inside its destination that gets something from itself, a way that is
-- not there, and a way that a file blocks.
theorem copyDir_beside :
    (Asked ["a","b"] ["a"] Sample.nested ∧ ¬ ∃ made, Laid ["a","b"] ["a"] Sample.nested made) ∧
    (Asked ["src"] ["new","copy"] Sample.bareWay ∧
      ∀ depth made, copyDir depth ["src"] ["new","copy"] Sample.bareWay = .ok () made →
        ¬ Unchanged ["new","copy"] Sample.bareWay made) ∧
    (Asked ["src"] ["way","copy"] Sample.blockedWay ∧
      ∀ depth made, copyDir depth ["src"] ["way","copy"] Sample.blockedWay ≠ .ok () made) := by
  refine ⟨⟨⟨by decide +kernel,by decide +kernel,agrees (by decide +kernel)⟩,?_⟩,
    ⟨⟨by decide +kernel,by decide +kernel,agrees (by decide +kernel)⟩,?_⟩,
    ⟨⟨by decide +kernel,by decide +kernel,agrees (by decide +kernel)⟩,?_⟩⟩
  · intro given
    obtain ⟨made,laid⟩ := given
    have copied := laid.overlay ["b","file"]
    have kept := laid.source ["file"]
    have taken : Sample.nested.find ["a","b","b","file"] = some (.file "data") := by decide +kernel
    have absent : Sample.nested.find ["a","b","file"] = none := by decide +kernel
    simp only [List.cons_append,List.nil_append] at copied kept
    rw [kept,taken,absent] at copied
    cases copied
  · intro depth made ran unchanged
    have separate : Separate ["src"] ["new","copy"] := ⟨by decide +kernel,by decide +kernel⟩
    have overlaid := (copyDir_overlaid depth separate ran).2 ["new"]
    have absent : Sample.bareWay.find ["new"] = none := by decide +kernel
    rw [unchanged ["new"] (by decide +kernel),absent,if_neg (by decide +kernel),if_pos (by decide +kernel)] at overlaid
    cases overlaid
  · intro depth made ran
    cases depth with
    | zero => cases ran
    | succ depth =>
      obtain ⟨_,entered,way,_⟩ := step_ok.mp ran
      have stopped : succeeds (makeDirs [] ["way","copy"] Sample.blockedWay) = false := by decide +kernel
      rw [way] at stopped
      cases stopped

end LiskMigrator
