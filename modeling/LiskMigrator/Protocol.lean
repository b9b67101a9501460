import LiskMigrator.Library.Runs
import LiskMigrator.Run

namespace LiskMigrator
open Interaction Outcome Words

-- Where a run has its snapshot from.
inductive SnapshotSource where
  | url (snapshotURL : String)
  | tarball (snapshotPath : String)
  | directory
  | node
deriving DecidableEq

-- What writeGenesisBlock makes of a file: a checksum of it, a note of the last
-- checksum, a tarball of it.
inductive Artefact where
  | checksum (path : String)
  | note (path : String)
  | tarball (path outputDir : String)
deriving DecidableEq

-- How far a run has come, by what it has been answered. No stage is entered by a
-- failure or a refusal but the last one, in which only the commands are written.
inductive Stage where
  | preparing
  | fetched
  | bothFetched
  | expecting (checksum : String)
  | verified
  | prepared
  | located (snapshotDirPath : String)
  | opened (db : Database)
  | exported (db : Database)
  | publishing (todo : List Artefact) (hash : String)
  | placed
  | stopping
  | declined
  | agreed
  | backedUp
  | copied
  | launching
  | started
  | closing

inductive Progress where
  | refused
  | entering
  | identified (networkIdentifier : String)
  | running (context : Context) (stage : Stage)

def taking (condition : Prop) [Decidable condition] (next : State) : Option State := if condition then some next else none

def settling (reply : Except ε α) (next : α → Stage) : Stage :=
  match reply with
  | .ok value => next value
  | .error _ => .closing

-- The first entry of the data directory holds the snapshot.
def listedStage (dataDir : String) : List String → Stage
  | [] => .closing
  | name :: _ => .located (Path.join [dataDir,name])

def agreeing (reply : Except Fault Bool) (next : Stage) : Stage := settling reply (fun agreed => if agreed then next else .closing)

section Context
variable (host : Host) (packages : Packages) (rounds : Nat) (context : Context)

def Context.snapshotURL : String := context.flags.snapshotURL.getD ""

def Context.source : SnapshotSource :=
  if context.useSnapshot then
    if startsWith context.snapshotURL "http" then .url context.snapshotURL
    else if endsWith (context.snapshotPath.getD "") ".tar.gz" then .tarball (context.snapshotPath.getD "")
    else .directory
  else .node

-- The directory of the snapshot, where no look into the data directory is needed.
def Context.snapshotDirPath : Option String :=
  if context.useSnapshot then context.snapshotPath.filter (fun path => path ≠ "" ∧ ¬ endsWith path ".tar.gz")
  else some (Path.join [context.liskCoreV3DataPath,snapshotDir])

def Context.tarballPath : String := downloadedFilePath context.snapshotURL context.outputDir

def Context.forgingStatusPath : String := Path.resolve host.cwd [context.outputDir,fileNameForgingStatus]

def Context.commandsPath : String := Path.resolve host.cwd [context.outputDir,fileNameCommandsToExec]

def Context.migratesConfig : Bool := context.flags.autoMigrateConfig && !context.useSnapshot

def Context.startsCore : Bool := context.flags.autoStartLiskCoreV4 && !context.useSnapshot

def configFilePath (network : NetworkConfigLocal) : String :=
  Path.join [utilsDirname host,"../..","config/" ++ network.name ++ "/config.json"]

-- The assets that a process makes of the database that has made none before.
def Context.assets (db : Database) : Except Failure (List GenesisAssetEntry) :=
  outcome (CreateAsset.init packages rounds db context.flags.snapshotHeight (((networkOf context.networkIdentifier).map (·.tokenID)).getD "")
    context.flags.pageSize .fresh)

-- The command for the block behind the one that the database has at the height.
def Context.genesisCommand (db : Database) : Option String := do
  let (header,id) ← (getBlockHeaderByHeight packages db context.flags.snapshotHeight).toOption
  let network ← context.networkConstant
  let defaultNetwork ← networkOf context.networkIdentifier
  return genesisBlockCreateCommand network.name (configFilePath host defaultNetwork) context.outputDir header id

def fileArtefacts (outputDir fileName : String) : List Artefact :=
  let filepath := Path.resolve host.cwd [outputDir,fileName]
  [.checksum filepath,.note (Path.resolve host.cwd [outputDir,fileName ++ ".SHA256"]),.tarball filepath outputDir,
    .checksum (filepath ++ ".tar.gz"),.note (Path.resolve host.cwd [outputDir,fileName ++ ".tar.gz.SHA256"])]

def artefacts (outputDir : String) : List Artefact :=
  fileArtefacts host outputDir fileNameGenesisBlockBlob ++ fileArtefacts host outputDir fileNameGenesisBlockJson

end Context

section Steps
variable (host : Host) (packages : Packages) (rounds : Nat) (context : Context)

def preparingStep : Stage → Event migrator → Option Stage
  | .preparing,⟨.download url path,reply⟩ =>
    taking (context.source = .url url ∧ path = context.tarballPath) (settling reply (fun _ => .fetched))
  | .preparing,⟨.extractTarBall src dest,reply⟩ =>
    taking (context.source = .tarball src ∧ dest = context.dataDir) (settling reply (fun _ => .prepared))
  | .preparing,⟨.createIPCClient path,reply⟩ =>
    taking (context.source = .node ∧ path = context.liskCoreV3DataPath) (settling reply (fun _ => .preparing))
  | .preparing,⟨.getNodeInfo path,reply⟩ =>
    taking (context.source = .node ∧ path = context.liskCoreV3DataPath) (settling reply (fun _ => .preparing))
  | .preparing,⟨.subscribeNewBlock path height outputDir,reply⟩ =>
    taking (context.source = .node ∧ path = context.liskCoreV3DataPath ∧ height = context.flags.snapshotHeight ∧
      outputDir = context.outputDir) (settling reply (fun _ => .preparing))
  | .preparing,⟨.observeChainHeight path height,reply⟩ =>
    taking (context.source = .node ∧ path = context.liskCoreV3DataPath ∧ height = context.flags.snapshotHeight)
      (settling reply (fun _ => .prepared))
  | .fetched,⟨.download url path,reply⟩ =>
    taking (url = context.snapshotURL ++ ".SHA256" ∧ path = downloadedFilePath url context.outputDir)
      (settling reply (fun _ => .bothFetched))
  | .bothFetched,⟨.read path,reply⟩ =>
    taking (path = context.tarballPath ++ ".SHA256")
      (settling reply (fun content =>
        if content = "" then .closing else .expecting (String.ofList (content.toList.takeWhile (· ≠ ' ')))))
  | .expecting checksum,⟨.createChecksum path,reply⟩ =>
    taking (path = context.tarballPath) (settling reply (fun fileChecksum => if fileChecksum = checksum then .verified else .closing))
  | .verified,⟨.extractTarBall src dest,reply⟩ =>
    taking (src = context.tarballPath ∧ dest = context.dataDir) (settling reply (fun _ => .prepared))
  | _,_ => none

def makingStep : Stage → Event migrator → Option Stage
  | .prepared,⟨.getFiles path,reply⟩ =>
    taking (context.snapshotDirPath = none ∧ path = context.dataDir)
      (settling reply (listedStage context.dataDir))
  | .prepared,⟨.openDatabase path,reply⟩ => taking (context.snapshotDirPath = some path) (settling reply .opened)
  | .located snapshotDirPath,⟨.openDatabase path,reply⟩ => taking (path = snapshotDirPath) (settling reply .opened)
  | .opened db,⟨.readDefaultConfig path,reply⟩ =>
    taking ((networkOf context.networkIdentifier).map (configFilePath host) = some path) (settling reply (fun _ => .opened db))
  | .opened db,⟨.writeGenesisAssets path assets,reply⟩ =>
    taking (path = Path.resolve host.cwd [context.outputDir,fileNameGenesisAssets] ∧
      (context.assets packages rounds db).toOption = some assets) (settling reply (fun _ => .exported db))
  | .exported db,⟨.readJSON _,reply⟩ => taking context.migratesConfig (settling reply (fun _ => .exported db))
  | .exported db,⟨.createBackup path _,reply⟩ =>
    taking (context.migratesConfig ∧ path = Path.join [utilsDirname host,"../..","backup"]) (settling reply (fun _ => .exported db))
  | .exported db,⟨.validate _,valid⟩ => taking context.migratesConfig (bif valid then .exported db else .closing)
  | .exported db,⟨.writeConfig outputDir _,reply⟩ =>
    taking (context.migratesConfig ∧ outputDir = context.outputDir) (settling reply (fun _ => .exported db))
  | .exported db,⟨.exec .installLiskCore,reply⟩ => some (settling reply (fun _ => .exported db))
  | .exported db,⟨.exec (.createGenesisBlock command),reply⟩ =>
    taking (context.genesisCommand host packages db = some command)
      (settling reply (fun _ => .publishing (artefacts host context.outputDir) ""))
  | _,_ => none

def publishingStep : Stage → Event migrator → Option Stage
  | .publishing (.checksum path :: todo) _,⟨.createChecksum filePath,reply⟩ =>
    taking (filePath = path) (settling reply (fun hash => .publishing todo hash))
  | .publishing (.note path :: todo) hash,⟨.write filePath content,reply⟩ =>
    taking (filePath = path ∧ content = hash) (settling reply (fun _ => .publishing todo hash))
  | .publishing (.tarball path dir :: todo) hash,⟨.createTarball filePath outputDir,reply⟩ =>
    taking (filePath = path ∧ outputDir = dir) (settling reply (fun _ => .publishing todo hash))
  | .publishing [] hash,⟨.exec .whichLiskCore,reply⟩ => taking context.startsCore (settling reply (fun _ => .publishing [] hash))
  | .publishing [] _,⟨.copyFile src _,reply⟩ =>
    taking (context.startsCore ∧ src = context.outputDir ++ "/genesis_block.blob") (settling reply (fun _ => .placed))
  | _,_ => none

-- A node that cannot be reached is one that has stopped, which is no failure.
def startingStep : Stage → Event migrator → Option Stage
  | .placed,⟨.confirm .stopLiskCoreV3,reply⟩ => some (agreeing reply .stopping)
  | .stopping,⟨.createIPCClient path,_⟩ => taking (path = context.liskCoreV3DataPath) .stopping
  | .stopping,⟨.getNodeInfo path,_⟩ => taking (path = context.liskCoreV3DataPath) .stopping
  | .stopping,⟨.confirm .liskCoreV3StillRunning,reply⟩ => some (agreeing reply .stopping)
  | .stopping,⟨.confirm (.configuration _),reply⟩ => some (settling reply (fun agreed => if agreed then .agreed else .declined))
  | .agreed,⟨.listen _,reply⟩ => some (settling reply (fun _ => .agreed))
  | .agreed,⟨.mkdir path,reply⟩ => taking (path = host.homedir ++ "/.lisk") (settling reply (fun _ => .agreed))
  | .agreed,⟨.rename src dest,reply⟩ =>
    taking (src = context.liskCoreV3DataPath ∧ dest = liskV3BackupDataDir host.homedir) (settling reply (fun _ => .backedUp))
  | .backedUp,⟨.copyDir src dest,reply⟩ =>
    taking (src = Path.resolve host.cwd [liskV3BackupDataDir host.homedir,snapshotDir] ∧ dest = resolveAbsolutePath host legacyDbPath)
      (settling reply (fun _ => .copied))
  | .copied,⟨.access path,_⟩ => taking (path = context.outputDir ++ "/config.json") .copied
  | .copied,⟨.confirm (.customizeStartCommand _),reply⟩ => some (settling reply (fun _ => .copied))
  | .copied,⟨.prompt,reply⟩ => some (settling reply (fun _ => .copied))
  | .copied,⟨.exec .liskCoreStartHelp,reply⟩ => some (settling reply (fun _ => .copied))
  | .copied,⟨.confirm (.pm2Configuration _),reply⟩ => some (agreeing reply .launching)
  | .launching,⟨.exec .installPM2,reply⟩ => some (settling reply (fun _ => .launching))
  | .launching,⟨.writeJSON path _,reply⟩ =>
    taking (path = Path.resolve host.cwd [context.outputDir,pm2FileName]) (settling reply (fun _ => .launching))
  | .launching,⟨.exec (.startPM2 path),reply⟩ =>
    taking (path = Path.resolve host.cwd [context.outputDir,pm2FileName]) (settling reply (fun _ => .started))
  | _,_ => none

-- The commands may be written from every stage, and then nothing else is done.
def closingStep : Stage → Event migrator → Option Stage
  | _,⟨.access path,_⟩ => taking (path = context.forgingStatusPath host) .closing
  | .closing,⟨.readJSON path,_⟩ => taking (path = context.forgingStatusPath host) .closing
  | .closing,⟨.write path _,_⟩ => taking (path = context.commandsPath host) .closing
  | _,_ => none

def stageStep (stage : Stage) (event : Event migrator) : Option Stage :=
  (((closingStep host context stage event).or (preparingStep context stage event)).or
    (makingStep host packages rounds context stage event)).or
    ((publishingStep context stage event).or (startingStep host context stage event))

end Steps

section Protocol
variable (host : Host) (packages : Packages) (rounds : Nat) (flags : Flags)

def outputPathOf : String := flags.output.getD (Path.join [host.dirname,"..","output"])

def outputDirOf (networkIdentifier : String) : String :=
  if given flags.output then outputPathOf host flags else outputPathOf host flags ++ "/" ++ networkIdentifier

def contextOf (networkIdentifier : String) : Context :=
  ⟨flags,resolveAbsolutePath host (flags.liskCoreV3DataPath.getD defaultLiskCorePath),snapshotPathOf host flags,useSnapshotOf host flags,
    networkIdentifier,networkOf networkIdentifier,outputDirOf host flags networkIdentifier,
    Path.join [host.dirname,"..",defaultDataDir]⟩

-- The flags that run accepts.
def Accepted : Prop :=
  (given flags.network → useSnapshotOf host flags) ∧
    (given flags.snapshotURL → startsWith (flags.snapshotURL.getD "") "http" ∧ endsWith (flags.snapshotURL.getD "") "tar.gz") ∧
    verifyOutputPath host (outputPathOf host flags) = none

instance : Decidable (Accepted host flags) := inferInstanceAs (Decidable (_ ∧ _ ∧ _))

def firstStage (context : Context) : Stage := if context.source = .directory then .prepared else .preparing

-- The name of the network, where a flag gives it.
def protocolStart : Progress :=
  if Accepted host flags then
    if given flags.network then
      match networkConstant.find? (fun entry => entry.2.name = flags.network.getD "") with
      | some (networkIdentifier,_) => .identified networkIdentifier
      | none => .refused
    else .entering
  else .refused

def entered (networkIdentifier : String) (reply : Except Fault Unit) : Progress :=
  match reply with
  | .ok _ => .running (contextOf host flags networkIdentifier) (firstStage (contextOf host flags networkIdentifier))
  | .error _ => .refused

def protocol : Progress → Event migrator → Option Progress
  | .entering,⟨.createIPCClient path,reply⟩ =>
    taking (path = resolveAbsolutePath host (flags.liskCoreV3DataPath.getD defaultLiskCorePath))
      (if reply.isOk then .entering else .refused)
  | .entering,⟨.getNodeInfo path,reply⟩ =>
    taking (path = resolveAbsolutePath host (flags.liskCoreV3DataPath.getD defaultLiskCorePath))
      (match reply with
        | .ok nodeInfo => .identified nodeInfo.networkIdentifier
        | .error _ => .refused)
  | .identified networkIdentifier,⟨.ensureDir path,reply⟩ =>
    taking (path = outputDirOf host flags networkIdentifier) (entered host flags networkIdentifier reply)
  | .running context stage,event => (stageStep host packages rounds context stage event).map (.running context)
  | _,_ => none

end Protocol
end LiskMigrator
