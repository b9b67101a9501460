import LiskMigrator.Run
import LiskMigrator.Utils.Fs

namespace LiskMigrator
open FileTree Interaction Outcome

abbrev Disk := Volume String

section Locations
variable (host : Host)

-- Where a path leads. There are no symbolic links, so its text tells.
def locate (path : String) : Location :=
  Path.walk true (if Path.isAbsolute path then path else host.cwd ++ "/" ++ path)

def home : Location := locate host (host.homedir ++ "/")

def dotLisk : Location := home host ++ [".lisk"]

def backupLocation : Location := home host ++ [".lisk","lisk-core-v3"]

def snapshotLocation : Location := backupLocation host ++ ["data","backup"]

def legacyLocation : Location := home host ++ [".lisk","lisk-core","data","legacy.db"]

end Locations

section Locating
variable {host : Host}

theorem isAbsolute_append (path rest : String) : Path.isAbsolute (path ++ "/" ++ rest) = Path.isAbsolute (path ++ "/") := by
  unfold Path.isAbsolute Words.startsWith
  rw [String.toList_append,String.toList_append]
  cases path.toList with
  | nil => rfl
  | cons c chars => rfl

theorem locate_below {names : List String} (all : ∀ segment ∈ names, Path.EntryName segment) (spelled : Path.segments rest = names)
    (path : String) : locate host (path ++ ("/" ++ rest)) = locate host (path ++ "/") ++ names := by
  have walked (start : String) : Path.walk true (start ++ "/" ++ rest) = Path.walk true (start ++ "/") ++ names := by
    rw [Path.walk_below all spelled,Path.walk_slash]
  unfold locate
  rw [← String.append_assoc,isAbsolute_append]
  split
  · exact walked path
  · rw [← String.append_assoc,← String.append_assoc,walked,String.append_assoc]

theorem locate_dotLisk : locate host (host.homedir ++ "/.lisk") = dotLisk host :=
  locate_below (by decide +kernel) (by decide +kernel : Path.segments ".lisk" = [".lisk"]) host.homedir

theorem locate_backup : locate host (liskV3BackupDataDir host.homedir) = backupLocation host :=
  locate_below (by decide +kernel) (by decide +kernel : Path.segments ".lisk/lisk-core-v3" = [".lisk","lisk-core-v3"]) host.homedir

theorem locate_legacy (plain : Words.Patternless host.homedir.toList) :
    locate host (resolveAbsolutePath host legacyDbPath) = legacyLocation host := by
  have expanded : resolveAbsolutePath host legacyDbPath = replaceTilde host.homedir ("/" ++ ".lisk/lisk-core/data/legacy.db") := by
    rfl
  rw [expanded,replaceTilde_plain plain]
  exact locate_below (by decide +kernel)
    (by decide +kernel : Path.segments ".lisk/lisk-core/data/legacy.db" = [".lisk","lisk-core","data","legacy.db"]) host.homedir

theorem locate_snapshot :
    locate host (Path.resolve host.cwd [liskV3BackupDataDir host.homedir,snapshotDir]) = snapshotLocation host := by
  have located (path : String) : locate host (Path.resolve host.cwd [path,snapshotDir]) = locate host path ++ ["data","backup"] := by
    have absolute : Path.isAbsolute (Path.resolve host.cwd [path,snapshotDir]) = true := by
      unfold Path.resolve Path.isAbsolute Words.startsWith
      rw [String.toList_append]
      rfl
    have relative : Path.isAbsolute snapshotDir = false := by decide +kernel
    unfold locate
    rw [if_pos absolute,Path.walk_resolve,List.foldl_cons,List.foldl_cons,List.foldl_nil,relative,if_neg Bool.false_ne_true]
    exact Path.walk_below (by decide +kernel) (by decide +kernel) true _
  rw [located,locate_backup]
  rfl

theorem locate_names (path : String) : ∀ name ∈ locate host path, Path.EntryName name := Path.walk_names _

theorem locate_absolute (absolute : Path.isAbsolute path = true) : locate host path = Path.walk true path := by
  unfold locate
  rw [if_pos absolute]

-- A relative path is read as the file system reads it.
theorem join_located (absolute : Path.isAbsolute host.cwd = true) (relative : Path.isAbsolute path = false) :
    ∃ ending, (ending = "" ∨ ending = "/") ∧
      Path.join [host.cwd,path] = "/" ++ "/".intercalate (locate host path) ++ ending := by
  have present : host.cwd ≠ "" := by
    intro empty
    rw [empty] at absolute
    cases absolute
  have located : locate host path = Path.walk true (host.cwd ++ "/" ++ path) := by
    unfold locate
    rw [relative,if_neg Bool.false_ne_true]
  unfold Path.join
  by_cases bare : path = ""
  · have alone : [host.cwd,path].filter (· ≠ "") = [host.cwd] := by simp [present,bare]
    rw [located,bare,String.append_empty,Path.walk_slash]
    rw [bare] at alone
    simp only [alone,String.intercalate_singleton]
    rw [if_neg present]
    exact Path.normalize_rooted absolute
  · have both : [host.cwd,path].filter (· ≠ "") = [host.cwd,path] := by simp [present,bare]
    have joined : "/".intercalate [host.cwd,path] = host.cwd ++ "/" ++ path := by
      rw [String.intercalate_cons_cons,String.intercalate_singleton]
    have filled : host.cwd ++ "/" ++ path ≠ "" := by simp
    simp only [both,joined]
    rw [if_neg filled,located]
    exact Path.normalize_rooted (Words.startsWith_longer (Words.startsWith_longer absolute "/") path)

-- Every path that the flags give is made one from the root.
theorem resolved_absolute (plain : Words.Patternless host.homedir.toList) (rooted : Path.isAbsolute host.homedir = true)
    (absolute : Path.isAbsolute host.cwd = true) (path : String) : Path.isAbsolute (resolveAbsolutePath host path) = true := by
  unfold resolveAbsolutePath
  split
  · assumption
  · rename_i relative
    split
    · rw [replaceTilde_plain plain]
      exact Words.startsWith_longer rooted _
    · obtain ⟨ending,_,joined⟩ := join_located absolute (Bool.eq_false_iff.mpr relative)
      rw [joined,String.append_assoc]
      exact Words.startsWith_self "/" _

end Locating
-- What the requests do to the files.
section World
variable (host : Host) (fault : FileError → Fault) (disk : Disk) (rest : World migrator)

def performed : Request → Change String Unit
  | .mkdir path => makeDirs [] (locate host path)
  | .rename src dest => rename (locate host src) (locate host dest)
  | .copyDir src dest => fun disk => copyDir (disk.names.length+1) (locate host src) (locate host dest) disk
  | _ => pure ()

def diskAfter : List (Event migrator) → Disk
  | [] => disk
  | event :: earlier => left (performed host event.call (diskAfter earlier))

def answer (result : EStateM.Result FileError Disk Unit) : Except Fault Unit := (outcome result).mapError fault

-- A world whose files start as those of the disk. It answers all else like `rest`.
def diskWorld : World migrator := fun events call =>
  match call with
  | .mkdir path => answer fault (performed host (.mkdir path) (diskAfter host disk events))
  | .rename src dest => answer fault (performed host (.rename src dest) (diskAfter host disk events))
  | .copyDir src dest => answer fault (performed host (.copyDir src dest) (diskAfter host disk events))
  | call => rest events call

end World

-- A world that answers the three requests as the files do.
structure OnDisk (host : Host) (fault : FileError → Fault) (disk : Disk) (world : World migrator) : Prop where
  mkdir : ∀ events path, world events (.mkdir path) =
    answer fault (makeDirs [] (locate host path) (diskAfter host disk events))
  rename : ∀ events src dest, world events (.rename src dest) =
    answer fault (rename (locate host src) (locate host dest) (diskAfter host disk events))
  copyDir : ∀ events src dest, world events (.copyDir src dest) =
    answer fault (copyDir ((diskAfter host disk events).names.length+1) (locate host src) (locate host dest)
      (diskAfter host disk events))

theorem diskWorld_onDisk (host : Host) (fault : FileError → Fault) (disk : Disk) (rest : World migrator) :
    OnDisk host fault disk (diskWorld host fault disk rest) := ⟨fun _ _ => rfl,fun _ _ _ => rfl,fun _ _ _ => rfl⟩

section Effects
variable {host : Host} {fault : FileError → Fault} {disk : Disk} {world : World migrator} {s : Session migrator Store}

theorem performed_ends {x : Migration (Except Fault Unit)} (result : EStateM.Result FileError Disk Unit)
    (asked : Ends x s (fun reply t => reply = answer fault result ∧ diskAfter host disk t.events = left result)
      (fun _ _ => True)) :
    Ends (settled x) s (fun _ t => result = .ok () (diskAfter host disk t.events)) (fun _ _ => True) := by
  apply ends_settled
  apply ends_imp asked
  · intro reply t ended
    obtain ⟨rfl,moved⟩ := ended
    rw [moved]
    cases result with
    | ok _ made => rfl
    | error error made => trivial
  · exact fun _ _ _ => trivial

theorem mkdir_performed (onDisk : OnDisk host fault disk world) (path : String) : Ends (settled (ask world (.mkdir path))) s
    (fun _ t => makeDirs [] (locate host path) (diskAfter host disk s.events) = .ok () (diskAfter host disk t.events))
    (fun _ _ => True) :=
  performed_ends _ (ends_ask world (fun _ replied => ⟨replied.trans (onDisk.mkdir s.events path),rfl⟩))

theorem rename_performed (onDisk : OnDisk host fault disk world) (src dest : String) :
    Ends (settled (ask world (.rename src dest))) s
      (fun _ t => rename (locate host src) (locate host dest) (diskAfter host disk s.events) = .ok () (diskAfter host disk t.events))
      (fun _ _ => True) :=
  performed_ends _ (ends_ask world (fun _ replied => ⟨replied.trans (onDisk.rename s.events src dest),rfl⟩))

theorem copyDir_performed (onDisk : OnDisk host fault disk world) (src dest : String) :
    Ends (settled (ask world (.copyDir src dest))) s
      (fun _ t => copyDir ((diskAfter host disk s.events).names.length+1) (locate host src) (locate host dest)
        (diskAfter host disk s.events) = .ok () (diskAfter host disk t.events))
      (fun _ _ => True) :=
  performed_ends _ (ends_ask world (fun _ replied => ⟨replied.trans (onDisk.copyDir s.events src dest),rfl⟩))

-- How the backup is made: from the files with the way to it made, if it was made.
structure Backed (host : Host) (data : Location) (disk prepared backed : Disk) : Prop where
  way : prepared = disk ∨ makeDirs [] (dotLisk host) disk = .ok () prepared
  renamed : rename data (backupLocation host) prepared = .ok () backed

theorem backup_disk (onDisk : OnDisk host fault disk world) (liskCorePath : String) :
    Ends (backupLegacyDataDir host world liskCorePath) s
      (fun _ t => ∃ prepared,
        Backed host (locate host liskCorePath) (diskAfter host disk s.events) prepared (diskAfter host disk t.events))
      (fun _ _ => True) := by
  apply ends_handle (fun _ _ => True)
  · apply ends_ite
    · intro _
      apply ends_bind (mkdir_performed onDisk _)
      intro _ t prepared
      rw [locate_dotLisk] at prepared
      apply ends_imp (rename_performed onDisk _ _)
      · intro _ u renamed
        rw [locate_backup] at renamed
        exact ⟨_,.inr prepared,renamed⟩
      · exact fun _ _ _ => trivial
    · intro _
      apply ends_imp (rename_performed onDisk _ _)
      · intro _ u renamed
        rw [locate_backup] at renamed
        exact ⟨_,.inl rfl,renamed⟩
      · exact fun _ _ _ => trivial
  · exact fun _ _ _ => ends_throw trivial

theorem copy_disk (plain : Words.Patternless host.homedir.toList) (onDisk : OnDisk host fault disk world) : Ends (copyLegacyDB host world) s
    (fun _ t => ∃ depth, copyDir depth (snapshotLocation host) (legacyLocation host) (diskAfter host disk s.events) =
      .ok () (diskAfter host disk t.events))
    (fun _ _ => True) := by
  apply ends_handle (fun _ _ => True)
  · apply ends_imp (copyDir_performed onDisk _ _)
    · intro _ t made
      rw [locate_snapshot,locate_legacy plain] at made
      exact ⟨_,made⟩
    · exact fun _ _ _ => trivial
  · exact fun _ _ _ => ends_throw trivial

end Effects
end LiskMigrator
