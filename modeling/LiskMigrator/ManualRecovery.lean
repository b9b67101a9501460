import LiskMigrator.Disk
import LiskMigrator.Library.ShellWords

namespace LiskMigrator
open FileTree Interaction Outcome ShellWords

-- The two steps on the files whose failure has an error code of its own.
inductive DiskStep where
  | backupLegacyDataDir
  | copyLegacyDB

def DiskStep.code : DiskStep → ErrorCode
  | .backupLegacyDataDir => .backupLegacyDataDir
  | .copyLegacyDB => .copyLegacyDB

def RecoveryStep.onFiles : RecoveryStep → Bool
  | .backupLegacyDataDir => true
  | .copyLegacyDB => true
  | _ => false

section Shell
variable (host : Host) (context : Context)

-- What startLiskCore does to the files from a step on.
def automatic (world : World migrator) : DiskStep → Migration Unit
  | .backupLegacyDataDir => do
    backupLegacyDataDir host world context.liskCoreV3DataPath
    copyLegacyDB host world
  | .copyLegacyDB => copyLegacyDB host world

def operandLocation : Operand → Location
  | .literal path => locate host path
  | .tilde rest => locate host (host.homedir ++ rest)

def runUtility : Utility → List Location → Change String Unit
  | .mv => FileTree.mv
  | .cp => FileTree.cp

-- What the shell does to the files with the text of a command. A text that is not
-- made of plain words is left to `other`.
def execute (other : String → Change String Unit) (text : String) : Change String Unit :=
  match CommandLine.read text with
  | some line => runUtility line.utility (line.operands.map (operandLocation host))
  | none => other text

-- The texts of the commands on the files, in their order.
def fileCommands (networkName : String) (store : Store) (code : ErrorCode) : List String :=
  ((recoverySections host context networkName store (some code.value)).filter (fun recovery => recovery.step.onFiles)).filterMap
    RecoverySection.command

-- The commands on the files that are listed for an error, run one after the other.
def manual (other : String → Change String Unit) (networkName : String) (store : Store) (code : ErrorCode) (disk : Disk) : Disk :=
  (fileCommands host context networkName store code).foldl (fun disk text => left (execute host other text disk)) disk

-- The copy has one operand only, which cp refuses.
theorem execute_copy (other : String → Change String Unit) (disk : Disk) :
    left (execute host other copyLegacyDBCommand disk) = disk := by
  have spelled : CommandLine.read copyLegacyDBCommand = some ⟨.cp,[.tilde "/.lisk/lisk-core/data/legacy.db"]⟩ := by decide +kernel
  unfold execute
  rw [spelled]
  rfl

theorem manual_backup (other : String → Change String Unit) (networkName : String) (store : Store) (disk : Disk) :
    manual host context other networkName store .backupLegacyDataDir disk =
      left (execute host other (backupLegacyDataDirCommand host context) disk) := by
  have listed : fileCommands host context networkName store .backupLegacyDataDir =
    [backupLegacyDataDirCommand host context,copyLegacyDBCommand] := rfl
  unfold manual
  rw [listed,List.foldl_cons,List.foldl_cons,List.foldl_nil,execute_copy]

theorem manual_copy (other : String → Change String Unit) (networkName : String) (store : Store) (disk : Disk) :
    manual host context other networkName store .copyLegacyDB disk = disk := by
  have listed : fileCommands host context networkName store .copyLegacyDB = [copyLegacyDBCommand] := rfl
  unfold manual
  rw [listed,List.foldl_cons,List.foldl_nil,execute_copy]

section Backup
variable {host : Host} {context : Context}

-- The move is run as the text has it where both paths are plain words.
theorem execute_backup (rooted : Path.isAbsolute host.homedir = true) (absolute : Path.isAbsolute context.liskCoreV3DataPath = true)
    (other : String → Change String Unit) (disk : Disk) :
    execute host other (backupLegacyDataDirCommand host context) disk =
      if Unquoted context.liskCoreV3DataPath ∧ Unquoted (liskV3BackupDataDir host.homedir) then
        FileTree.mv [locate host context.liskCoreV3DataPath,backupLocation host] disk
      else other (backupLegacyDataDirCommand host context) disk := by
  have spelled : CommandLine.read (backupLegacyDataDirCommand host context) = _ :=
    read_move absolute (Words.startsWith_longer rooted "/.lisk/lisk-core-v3")
  unfold execute
  rw [spelled,← locate_backup]
  by_cases words : Unquoted context.liskCoreV3DataPath ∧ Unquoted (liskV3BackupDataDir host.homedir)
  · rw [if_pos words,if_pos words]
    rfl
  · rw [if_neg words,if_neg words]

end Backup

end Shell

-- The files that the two ways leave, as far as legacy.db and the backup go.
structure Recovered (host : Host) (manual automatic : Disk) : Prop where
  legacy : ∀ rest, manual.find (legacyLocation host ++ rest) = automatic.find (legacyLocation host ++ rest)
  backup : ∀ rest, manual.find (backupLocation host ++ rest) = automatic.find (backupLocation host ++ rest)
  copied : ∀ rest content, manual.find (snapshotLocation host ++ rest) = some (.file content) →
    manual.find (legacyLocation host ++ rest) = some (.file content)

-- legacy.db holds the snapshot of the data directory, outside of it.
def Held (host : Host) (disk : Disk) (data : Location) : Prop :=
  ∀ rest entry, disk.find (data ++ (["data","backup"] ++ rest)) = some entry →
    ¬ data <+: legacyLocation host ++ rest ∧ disk.find (legacyLocation host ++ rest) = some entry

-- Nothing is in the way of the move, which does not make a directory for it.
def Clear (host : Host) (disk : Disk) (data : Location) : Prop :=
  data = backupLocation host ∨ disk.find (backupLocation host) = none ∧ disk.find (dotLisk host) = some .directory

def DiskStep.Enough (host : Host) (context : Context) (disk : Disk) : DiskStep → Prop
  | .backupLegacyDataDir =>
    (Unquoted context.liskCoreV3DataPath ∧ Unquoted (liskV3BackupDataDir host.homedir)) ∧
      Clear host disk (locate host context.liskCoreV3DataPath) ∧ Held host disk (locate host context.liskCoreV3DataPath)
  | .copyLegacyDB => Held host disk (backupLocation host)

section Places
variable {host : Host} {disk backed byHand byCode : Disk} {data : Location}

theorem snapshot_eq (rest : Location) : snapshotLocation host ++ rest = backupLocation host ++ (["data","backup"] ++ rest) :=
  List.append_assoc _ _ _

-- The two directories part at their second names.
theorem parted (one two : Location) : ¬ home host ++ ".lisk" :: "lisk-core-v3" :: one <+: home host ++ ".lisk" :: "lisk-core" :: two ∧
    ¬ home host ++ ".lisk" :: "lisk-core" :: two <+: home host ++ ".lisk" :: "lisk-core-v3" :: one := by
  constructor
  · intro inside
    rw [List.prefix_append_right_inj,List.cons_prefix_cons,List.cons_prefix_cons] at inside
    exact absurd inside.2.1 (by decide)
  · intro inside
    rw [List.prefix_append_right_inj,List.cons_prefix_cons,List.cons_prefix_cons] at inside
    exact absurd inside.2.1 (by decide)

theorem backup_split (rest : Location) : backupLocation host ++ rest = home host ++ ".lisk" :: "lisk-core-v3" :: rest :=
  List.append_assoc _ _ _

theorem legacy_split (rest : Location) :
    legacyLocation host ++ rest = home host ++ ".lisk" :: "lisk-core" :: "data" :: "legacy.db" :: rest :=
  List.append_assoc _ _ _

theorem backup_legacy (host : Host) (one two : Location) : ¬ backupLocation host ++ one <+: legacyLocation host ++ two := by
  rw [backup_split,legacy_split]
  exact (parted one ("data" :: "legacy.db" :: two)).1

theorem legacy_backup (host : Host) (one two : Location) : ¬ legacyLocation host ++ two <+: backupLocation host ++ one := by
  rw [backup_split,legacy_split]
  exact (parted one ("data" :: "legacy.db" :: two)).2

theorem separate_snapshot : Separate (snapshotLocation host) (legacyLocation host) := by
  constructor
  · have apart := backup_legacy host ["data","backup"] []
    rw [List.append_nil] at apart
    exact apart
  · have apart := legacy_backup host ["data","backup"] []
    rw [List.append_nil] at apart
    exact apart

theorem overlaid_backup (overlaid : Overlaid (snapshotLocation host) (legacyLocation host) backed byCode) (rest : Location) :
    byCode.find (backupLocation host ++ rest) = backed.find (backupLocation host ++ rest) := by
  have outside := legacy_backup host rest []
  have around := backup_legacy host rest []
  rw [List.append_nil] at outside around
  rw [overlaid,if_neg outside,if_neg around]

-- Nothing is copied by hand, so legacy.db has to hold the snapshot as it is.
theorem recovered_iff (overlaid : Overlaid (snapshotLocation host) (legacyLocation host) backed byCode)
    (same : ∀ place, byHand.find place = backed.find place) :
    Recovered host byHand byCode ↔ ∀ rest entry, backed.find (snapshotLocation host ++ rest) = some entry →
      backed.find (legacyLocation host ++ rest) = some entry := by
  constructor
  · intro recovered rest entry found
    have legacy := recovered.legacy rest
    rw [same,overlaid.below,found,Option.some_or] at legacy
    exact legacy
  · intro holds
    refine ⟨?_,?_,?_⟩
    · intro rest
      rw [same,overlaid.below]
      cases found : backed.find (snapshotLocation host ++ rest) with
      | none => rw [Option.none_or]
      | some entry => rw [Option.some_or,holds rest entry found]
    · intro rest
      rw [same,overlaid_backup overlaid]
    · intro rest content found
      rw [same] at found ⊢
      exact holds rest _ found

-- Of the backup directory itself, nothing is in legacy.db.
theorem held_backup : Held host disk (backupLocation host) ↔
    ∀ rest entry, disk.find (snapshotLocation host ++ rest) = some entry → disk.find (legacyLocation host ++ rest) = some entry := by
  have apart (rest : Location) : ¬ backupLocation host <+: legacyLocation host ++ rest := by
    have parted := backup_legacy host [] rest
    rw [List.append_nil] at parted
    exact parted
  constructor
  · intro held rest entry found
    rw [snapshot_eq] at found
    exact (held rest entry found).2
  · intro holds rest entry found
    rw [← snapshot_eq] at found
    exact ⟨apart rest,holds rest entry found⟩

-- The data directory has been moved.
theorem held_moved (moved : ∀ place, backed.find place = if backupLocation host <+: place
      then disk.find (data ++ place.drop (backupLocation host).length) else if data <+: place then none else disk.find place) :
    Held host disk data ↔ ∀ rest entry, backed.find (snapshotLocation host ++ rest) = some entry →
      backed.find (legacyLocation host ++ rest) = some entry := by
  have source (rest : Location) : backed.find (snapshotLocation host ++ rest) = disk.find (data ++ (["data","backup"] ++ rest)) := by
    rw [snapshot_eq,moved,if_pos (List.prefix_append _ _),List.drop_left]
  have legacy (rest : Location) : backed.find (legacyLocation host ++ rest) =
      if data <+: legacyLocation host ++ rest then none else disk.find (legacyLocation host ++ rest) := by
    have parted := backup_legacy host [] rest
    rw [List.append_nil] at parted
    rw [moved,if_neg parted]
  constructor
  · intro held rest entry found
    rw [source] at found
    obtain ⟨outside,there⟩ := held rest entry found
    rw [legacy,if_neg outside,there]
  · intro holds rest entry found
    rw [← source] at found
    have there := holds rest entry found
    rw [legacy] at there
    split at there
    · cases there
    · rename_i outside
      exact ⟨outside,there⟩

theorem backup_last : backupLocation host = dotLisk host ++ ["lisk-core-v3"] := by
  unfold backupLocation dotLisk
  rw [List.append_assoc,List.singleton_append]

theorem backup_above : (backupLocation host).dropLast = dotLisk host := by
  rw [backup_last,List.dropLast_concat]

theorem dotLisk_held (there : disk.find (backupLocation host) = some entry) : disk.find (dotLisk host) = some .directory := by
  rw [backup_last] at there
  exact Volume.find_above ["lisk-core-v3"] (by simp) there

theorem Backed.same (made : Backed host data disk prepared backed) (held : disk.find (dotLisk host) = some .directory) :
    prepared = disk := by
  rcases made.way with same | ran
  · exact same
  · have kept : makeDirs [] (dotLisk host) disk = .ok () disk := makeDirs_held held
    rw [kept] at ran
    cases ran
    rfl

theorem Backed.there (made : Backed host data disk prepared backed) (found : prepared.find (backupLocation host) = some entry) :
    disk.find (backupLocation host) = some entry := by
  rcases made.way with same | ran
  · rw [← same,found]
  · rw [makeDirs_find disk.root ran,if_neg] at found
    · exact found
    · intro before
      rw [List.nil_append,backup_last] at before
      exact absurd before.length_le (by simp)

theorem backup_held (source : backed.find (snapshotLocation host) = some .directory) (part : Location)
    (before : part <+: ["data","backup"]) : backed.find (backupLocation host ++ part) = some .directory :=
  Volume.find_prefix ((List.prefix_append_right_inj _).mpr before) source

-- A backup that is there already takes the data directory in, under its name.
theorem nested_apart (renamed : Renamed data (backupLocation host) disk backed)
    (source : backed.find (snapshotLocation host) = some .directory) (there : disk.find (backupLocation host) = some entry)
    (same : ∀ rest, (left (FileTree.mv [data,backupLocation host] disk)).find (backupLocation host ++ rest) =
      backed.find (backupLocation host ++ rest)) : False := by
  have moved (rest : Location) : backed.find (backupLocation host ++ rest) = disk.find (data ++ rest) := by
    rw [renamed.moved,if_pos (List.prefix_append _ rest),List.drop_left]
  have directory : disk.find data = some .directory := by
    have held := backup_held source [] List.nil_prefix
    rw [moved,List.append_nil] at held
    exact held
  obtain ⟨rfl,empty⟩ := renamed.empty directory there
  have inData : backed.find (backupLocation host ++ ["data"]) = some .directory := backup_held source ["data"] (by decide)
  have inBackup : backed.find (backupLocation host ++ ["data","backup"]) = some .directory :=
    backup_held source ["data","backup"] List.prefix_rfl
  have filled : data ≠ [] := fun root => renamed.apart (root ▸ List.nil_prefix)
  obtain ⟨parent,base,rfl⟩ := (List.eq_nil_or_concat' data).resolve_left filled
  rw [mv_into there] at same
  cases ran : rename (parent ++ [base]) (backupLocation host ++ [base]) disk with
  | error error made =>
    have stays := rename_stays ran
    have nothing := same ["data"]
    rw [ran,inData] at nothing
    change made.find _ = _ at nothing
    rw [stays,empty] at nothing
    cases nothing
  | ok _ made =>
    rw [ran] at same
    change ∀ rest, made.find (backupLocation host ++ rest) = backed.find (backupLocation host ++ rest) at same
    rcases rename_ok ran with ⟨onto,_⟩ | nested
    · rw [onto,empty] at directory
      cases directory
    · have named : "data" = base := by
        by_contra apart
        have nothing := same ["data"]
        rw [nested.alone empty apart,inData] at nothing
        cases nothing
      subst named
      have inner := same ["data","backup"]
      have outer := same ["backup"]
      rw [inBackup,List.append_cons,nested.moved,if_pos (List.prefix_append _ _),List.drop_left] at inner
      rw [nested.alone empty (by decide),moved,inner] at outer
      cases outer

-- A directory is not moved into itself.
theorem mv_itself (held : disk.find (backupLocation host) = some .directory) :
    left (FileTree.mv [backupLocation host,backupLocation host] disk) = disk := by
  have into := mv_into held (dotLisk host) "lisk-core-v3"
  rw [← backup_last] at into
  rw [into]
  cases ran : rename (backupLocation host) (backupLocation host ++ ["lisk-core-v3"]) disk with
  | error error made => exact rename_stays ran
  | ok _ made =>
    rcases rename_ok ran with ⟨same,_⟩ | renamed
    · exact absurd same (by simp)
    · exact absurd (List.prefix_append _ _) renamed.apart

theorem backed_held (source : backed.find (snapshotLocation host) = some .directory) :
    backed.find (backupLocation host) = some .directory := by
  have here := backup_held source [] List.nil_prefix
  rw [List.append_nil] at here
  exact here

-- With no backup there, mv does what the rename does, or there is no way to it.
theorem manual_fresh_iff (made : Backed host data disk prepared backed)
    (renamed : Renamed data (backupLocation host) prepared backed) (source : backed.find (snapshotLocation host) = some .directory)
    (overlaid : Overlaid (snapshotLocation host) (legacyLocation host) backed byCode)
    (absent : disk.find (backupLocation host) = none) :
    Recovered host (left (FileTree.mv [data,backupLocation host] disk)) byCode ↔
      disk.find (dotLisk host) = some .directory ∧ Held host disk data := by
  rw [mv_onto (by rw [absent]; simp)]
  by_cases way : disk.find (dotLisk host) = some .directory
  · obtain rfl := made.same way
    rw [made.renamed,and_iff_right way,held_moved renamed.moved]
    exact recovered_iff overlaid (fun _ => rfl)
  · apply iff_of_false
    · intro recovered
      have stays : left (rename data (backupLocation host) disk) = disk := by
        cases ran : rename data (backupLocation host) disk with
        | error error left_ => exact rename_stays ran
        | ok _ moved =>
          rcases rename_ok ran with ⟨same,_⟩ | renamed
          · exact absurd (same ▸ List.prefix_rfl) renamed.apart
          · exact absurd (backup_above ▸ renamed.held) way
      have nothing := recovered.backup []
      rw [stays,overlaid_backup overlaid,List.append_nil,absent,backed_held source] at nothing
      cases nothing
    · exact fun enough => way enough.1

theorem manual_backup_iff (made : Backed host data disk prepared backed) (source : backed.find (snapshotLocation host) = some .directory)
    (overlaid : Overlaid (snapshotLocation host) (legacyLocation host) backed byCode) :
    Recovered host (left (FileTree.mv [data,backupLocation host] disk)) byCode ↔ Clear host disk data ∧ Held host disk data := by
  rcases rename_ok made.renamed with ⟨same,kept⟩ | renamed
  · have there : disk.find (backupLocation host) = some .directory := made.there (kept ▸ backed_held source)
    have unmoved : backed = disk := kept.trans (made.same (dotLisk_held there))
    subst same
    subst unmoved
    rw [mv_itself there,recovered_iff overlaid (fun _ => rfl),← held_backup]
    exact (and_iff_right (.inl rfl)).symm
  · have other : data ≠ backupLocation host := fun same => renamed.apart (same ▸ List.prefix_rfl)
    cases there : disk.find (backupLocation host) with
    | some entry =>
      have unprepared := made.same (dotLisk_held there)
      apply iff_of_false
      · intro recovered
        apply nested_apart (unprepared ▸ renamed) source there
        exact fun rest => (recovered.backup rest).trans (overlaid_backup overlaid rest)
      · intro enough
        rcases enough.1 with same | absent
        · exact other same
        · rw [there] at absent
          cases absent.1
    | none =>
      rw [manual_fresh_iff made renamed source overlaid there]
      constructor
      · exact fun enough => ⟨.inr ⟨there,enough.1⟩,enough.2⟩
      · intro enough
        exact ⟨(enough.1.resolve_left other).2,enough.2⟩

-- The functions leave a backup, which a shell that clears the disk does not.
theorem bare_apart (source : backed.find (snapshotLocation host) = some .directory)
    (overlaid : Overlaid (snapshotLocation host) (legacyLocation host) backed byCode) : ¬ Recovered host Volume.bare byCode := by
  intro recovered
  have nothing := recovered.backup []
  rw [overlaid_backup overlaid,List.append_nil,backed_held source,backup_last] at nothing
  exact absurd nothing (by simp [Volume.bare])

end Places
section Recovery
variable {host : Host} {context : Context} {fault : FileError → Fault} {disk : Disk} {world rest : World migrator}

theorem automatic_copied (plain : Words.Patternless host.homedir.toList) (onDisk : OnDisk host fault disk world)
    (succeeds : automatic host context world .copyLegacyDB ⟨[],start⟩ = .ok () t) :
    ∃ depth, copyDir depth (snapshotLocation host) (legacyLocation host) disk = .ok () (diskAfter host disk t.events) :=
  ends_ok (copy_disk plain onDisk) succeeds

theorem automatic_backed (plain : Words.Patternless host.homedir.toList) (onDisk : OnDisk host fault disk world)
    (succeeds : automatic host context world .backupLegacyDataDir ⟨[],start⟩ = .ok () t) :
    ∃ prepared backed depth, Backed host (locate host context.liskCoreV3DataPath) disk prepared backed ∧
      copyDir depth (snapshotLocation host) (legacyLocation host) backed = .ok () (diskAfter host disk t.events) := by
  have ended : Ends (automatic host context world .backupLegacyDataDir) ⟨[],start⟩
      (fun _ t => ∃ prepared backed depth, Backed host (locate host context.liskCoreV3DataPath) disk prepared backed ∧
        copyDir depth (snapshotLocation host) (legacyLocation host) backed = .ok () (diskAfter host disk t.events))
      (fun _ _ => True) := by
    apply ends_bind (backup_disk onDisk context.liskCoreV3DataPath)
    intro _ t backed
    obtain ⟨prepared,made⟩ := backed
    apply ends_imp (copy_disk plain onDisk)
    · intro _ u copied
      obtain ⟨depth,copied⟩ := copied
      exact ⟨prepared,_,depth,made,copied⟩
    · exact fun _ _ _ => trivial
  exact ends_ok ended succeeds

-- The files are those from which startLiskCore would get on from the step that
-- failed. What a shell makes of texts that are more than plain words is left open.
theorem manual_recovery_iff {step : DiskStep} {path : String} (plain : Words.Patternless host.homedir.toList)
    (rooted : Path.isAbsolute host.homedir = true) (absolute : Path.isAbsolute host.cwd = true)
    (resolved : context.liskCoreV3DataPath = resolveAbsolutePath host path) (networkName : String) (store : Store)
    (succeeds : automatic host context (diskWorld host fault disk rest) step ⟨[],start⟩ = .ok () t) :
    (∀ other : String → Change String Unit,
        Recovered host (manual host context other networkName store step.code disk) (diskAfter host disk t.events)) ↔
      step.Enough host context disk := by
  cases step with
  | backupLegacyDataDir =>
    obtain ⟨prepared,backed,depth,made,copied⟩ := automatic_backed plain (diskWorld_onDisk host fault disk rest) succeeds
    obtain ⟨source,overlaid⟩ := copyDir_overlaid depth separate_snapshot copied
    have fromRoot : Path.isAbsolute context.liskCoreV3DataPath = true := resolved ▸ resolved_absolute plain rooted absolute path
    have byHand (other : String → Change String Unit) :
        manual host context other networkName store (DiskStep.code .backupLegacyDataDir) disk = left (_ : EStateM.Result _ _ _) :=
      (manual_backup host context other networkName store disk).trans
        (congrArg left (execute_backup rooted fromRoot other disk))
    simp only [byHand]
    by_cases words : Unquoted context.liskCoreV3DataPath ∧ Unquoted (liskV3BackupDataDir host.homedir)
    · simp only [if_pos words]
      rw [forall_const,manual_backup_iff made source overlaid]
      exact (and_iff_right words).symm
    · simp only [if_neg words]
      apply iff_of_false
      · exact fun recovered => bare_apart source overlaid (recovered (fun _ _ => .ok () Volume.bare))
      · exact fun enough => words enough.1
  | copyLegacyDB =>
    obtain ⟨depth,copied⟩ := automatic_copied plain (diskWorld_onDisk host fault disk rest) succeeds
    obtain ⟨_,overlaid⟩ := copyDir_overlaid depth separate_snapshot copied
    have byHand (other : String → Change String Unit) :
        manual host context other networkName store (DiskStep.code .copyLegacyDB) disk = disk :=
      manual_copy host context other networkName store disk
    simp only [byHand]
    rw [forall_const,recovered_iff overlaid (fun _ => rfl),← held_backup]
    rfl

end Recovery
namespace Sample

def nodeData : Location := ["home","lisk",".lisk","lisk-core"]

-- The data directory of a node with one file in its snapshot.
def nodeDisk : Disk :=
  left ((do
    makeDirs [] (nodeData ++ ["data","backup"])
    writeFile (nodeData ++ ["data","backup","CURRENT"]) "MANIFEST-000001" : Change String Unit) Volume.bare)

def nodeContext : Context :=
  ⟨⟨some "/out",none,103,none,true,true,1,none,none,none⟩,"/home/lisk/.lisk/lisk-core",none,false,"mainnet",none,"/out",
    "/opt/migrator/data"⟩

def nodeWorld : World migrator := diskWorld host (fun _ => failed) nodeDisk (fun _ => refused)

def nodeEnd : Session migrator Store := left (automatic host nodeContext nodeWorld .backupLegacyDataDir ⟨[],.fresh⟩)

theorem node_succeeds : automatic host nodeContext nodeWorld .backupLegacyDataDir ⟨[],.fresh⟩ = .ok () nodeEnd :=
  succeeds_ok (by decide +kernel)

-- The files after the commands, and after the functions.
def nodeByHand (other : String → Change String Unit) : Disk :=
  manual host nodeContext other "mainnet" .fresh (DiskStep.code .backupLegacyDataDir) nodeDisk

-- Both paths are plain words, so that no other text is run.
@[irreducible] def nodeMoved : Disk := nodeByHand (fun _ => throw .usage)

theorem node_moved (other : String → Change String Unit) : nodeByHand other = nodeMoved := by
  have words : Unquoted nodeContext.liskCoreV3DataPath ∧ Unquoted (liskV3BackupDataDir host.homedir) := by decide +kernel
  unfold nodeMoved nodeByHand
  have moved (other : String → Change String Unit) : manual host nodeContext other "mainnet" .fresh
      (DiskStep.code .backupLegacyDataDir) nodeDisk = left (FileTree.mv [locate host nodeContext.liskCoreV3DataPath,backupLocation host] nodeDisk) := by
    refine (manual_backup host nodeContext other "mainnet" .fresh nodeDisk).trans ?_
    rw [execute_backup (by decide +kernel) (by decide +kernel),if_pos words]
  rw [moved other,moved (fun _ => throw .usage)]

@[irreducible] def nodeByCode : Disk := diskAfter host nodeDisk nodeEnd.events

theorem node_snapshot : nodeMoved.find (snapshotLocation host ++ ["CURRENT"]) = some (.file "MANIFEST-000001") := by
  decide +kernel

theorem node_legacy : nodeMoved.find (legacyLocation host ++ ["CURRENT"]) = none := by decide +kernel

end Sample

theorem manual_recovery_sample :
    (∀ other : String → Change String Unit, Recovered Sample.host (Sample.nodeByHand other) Sample.nodeByCode) ↔
      DiskStep.Enough Sample.host Sample.nodeContext Sample.nodeDisk .backupLegacyDataDir := by
  unfold Sample.nodeByHand Sample.nodeByCode
  exact manual_recovery_iff (by decide +kernel) (by decide +kernel) (by decide +kernel)
    (by decide +kernel : Sample.nodeContext.liskCoreV3DataPath = resolveAbsolutePath Sample.host "~/.lisk/lisk-core") "mainnet" .fresh
    Sample.node_succeeds

theorem copy_without_source :
    automatic Sample.host Sample.nodeContext Sample.nodeWorld .backupLegacyDataDir ⟨[],.fresh⟩ = .ok () Sample.nodeEnd ∧
    ∀ other : String → Change String Unit, ¬ Recovered Sample.host (Sample.nodeByHand other) Sample.nodeByCode := by
  refine ⟨Sample.node_succeeds,?_⟩
  intro other recovered
  rw [Sample.node_moved] at recovered
  have found := recovered.copied ["CURRENT"] "MANIFEST-000001" Sample.node_snapshot
  rw [Sample.node_legacy] at found
  cases found

end LiskMigrator
