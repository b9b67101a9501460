import LiskMigrator.Utils.Commands
import LiskMigrator.Utils.Download
import LiskMigrator.Utils.Files
import LiskMigrator.Utils.GenesisBlock
import LiskMigrator.Utils.Node

namespace LiskMigrator
open Interaction Outcome Words

structure Flags where
  output : Option String
  liskCoreV3DataPath : Option String
  snapshotHeight : Int
  config : Option String
  autoMigrateConfig : Bool
  autoStartLiskCoreV4 : Bool
  pageSize : Int
  snapshotPath : Option String
  snapshotURL : Option String
  network : Option String

-- A text that is set and not empty.
def given (text : Option String) : Bool := text.any (· ≠ "")

-- What run has fixed when its try block begins.
structure Context where
  flags : Flags
  liskCoreV3DataPath : String
  snapshotPath : Option String
  useSnapshot : Bool
  networkIdentifier : String
  networkConstant : Option NetworkConfigLocal
  outputDir : String
  dataDir : String

def snapshotRequired : String := "Either --snapshot-path= or --snapshot-url= must be provided when using --network="

def unexpectedURL (snapshotURL : String) : String :=
  "Expected --snapshot-url to begin with http(s) and end with 'tar.gz' instead received " ++ snapshotURL ++ "."

section Run
variable (host : Host) (packages : Packages) (rounds : Nat) (world : World migrator)

def snapshotPathOf (flags : Flags) : Option String :=
  flags.snapshotPath.map (fun path => if path = "" then "" else resolveAbsolutePath host path)

def useSnapshotOf (flags : Flags) : Bool := given (snapshotPathOf host flags) || given flags.snapshotURL

def checkFlags (flags : Flags) (useSnapshot : Bool) (outputPath : String) : Migration Unit := do
  cliErrorIf (given flags.network ∧ ¬ useSnapshot) snapshotRequired
  let snapshotURL := flags.snapshotURL.getD ""
  cliErrorIf (given flags.snapshotURL ∧ (¬ startsWith snapshotURL "http" ∨ ¬ endsWith snapshotURL "tar.gz"))
    (unexpectedURL snapshotURL)
  match verifyOutputPath host outputPath with
  | some refused => raise refused
  | none => pure ()

def enterRun (flags : Flags) : Migration Context := do
  let liskCoreV3DataPath := resolveAbsolutePath host (flags.liskCoreV3DataPath.getD defaultLiskCorePath)
  let outputPath := flags.output.getD (Path.join [host.dirname,"..","output"])
  let snapshotPath := snapshotPathOf host flags
  let useSnapshot := useSnapshotOf host flags
  checkFlags host flags useSnapshot outputPath
  let networkIdentifier ← getNetworkIdentifier world flags.network liskCoreV3DataPath
  let outputDir := if given flags.output then outputPath else outputPath ++ "/" ++ networkIdentifier
  settled (ask world (.ensureDir outputDir))
  let dataDir := Path.join [host.dirname,"..",defaultDataDir]
  return ⟨flags,liskCoreV3DataPath,snapshotPath,useSnapshot,networkIdentifier,networkOf networkIdentifier,outputDir,dataDir⟩

def heightMismatch (actual expected : Int) : String :=
  "Lisk Core v3 backup height mismatch. Actual: " ++ toString actual ++ ", Expected: " ++ toString expected ++ "."

def invalidHeight (snapshotHeight : Int) : String :=
  "Invalid snapshot height provided: " ++ toString snapshotHeight ++ ". It must be an exact multiple of round length (" ++
    toString roundLength ++ ")."

def unknownNetwork (networkIdentifier : String) : String :=
  "Unknown network detected. No NETWORK_CONSTANT defined for networkID: " ++ networkIdentifier ++ "."

def invalidVersion (appVersion : String) : String :=
  "Invalid Lisk Core version detected: " ++ appVersion ++ ". Minimum supported version is " ++ minSupportedLiskCoreVersion ++ "."

def incompatibleVersion (appVersion : String) : String :=
  "Lisk Migrator is not compatible with Lisk Core version " ++ appVersion ++ ". Minimum supported version is " ++
    minSupportedLiskCoreVersion ++ "."

section TryBlock
variable (context : Context)

def verifyNode : Migration Unit := do
  let nodeInfo ← getNodeInfo world context.liskCoreV3DataPath
  let snapshotHeight := context.flags.snapshotHeight
  cliErrorIf (snapshotHeight ≠ nodeInfo.backupHeight) (heightMismatch nodeInfo.backupHeight snapshotHeight)
  cliErrorIf (snapshotHeight.tmod roundLength ≠ 0) (invalidHeight snapshotHeight)
  settled (ask world (.subscribeNewBlock context.liskCoreV3DataPath snapshotHeight context.outputDir))
  cliErrorIf (context.flags.autoStartLiskCoreV4 ∧ context.networkConstant.isNone) (unknownNetwork context.networkIdentifier)
  cliErrorIf (¬ host.validVersion nodeInfo.version) (invalidVersion nodeInfo.version)
  cliErrorIf (host.versionBefore nodeInfo.version minSupportedLiskCoreVersion) (incompatibleVersion nodeInfo.version)
  settled (ask world (.observeChainHeight context.liskCoreV3DataPath snapshotHeight))

def prepareSnapshot : Migration Unit :=
  if context.useSnapshot then
    let snapshotURL := context.flags.snapshotURL.getD ""
    let snapshotPath := context.snapshotPath.getD ""
    if startsWith snapshotURL "http" then downloadAndExtract world snapshotURL context.outputDir context.dataDir
    else if endsWith snapshotPath ".tar.gz" then settled (ask world (.extractTarBall snapshotPath context.dataDir))
    else pure ()
  else verifyNode host world context

-- The snapshot directory, the database in it and the assets made of that.
def createAssets : Migration (String × Database × List GenesisAssetEntry) := do
  setTokenIDLskByNetID context.networkIdentifier
  setPrevSnapshotBlockHeightByNetID context.networkIdentifier
  let snapshotDirPath ← resolveSnapshotPath world context.useSnapshot context.snapshotPath context.dataDir context.liskCoreV3DataPath
  let db ← settled (ask world (.openDatabase snapshotDirPath))
  let store ← readStore
  let genesisAssets ← ofProcess
    (CreateAsset.init packages rounds db context.flags.snapshotHeight (store.tokenIDLsk.getD "") context.flags.pageSize)
  return (snapshotDirPath,db,genesisAssets)

def invalidConfig : String := "Migrated user configuration is invalid."

def migrateConfig (defaultConfigV4 : ApplicationConfig) : Migration Unit :=
  if context.flags.autoMigrateConfig ∧ ¬ context.useSnapshot then do
    let configV3 ← getConfig host world context.liskCoreV3DataPath context.networkIdentifier context.flags.config
    createBackup host world configV3
    let migratedConfigV4 := migrateUserConfig configV3 defaultConfigV4 context.flags.snapshotHeight
    let isValidConfig ← ask world (.validate migratedConfigV4)
    if ¬ isValidConfig then throw (.migratorException invalidConfig .invalidConfig)
    writeConfig world migratedConfigV4 context.outputDir
    update (fun store => { store with configCoreV4 := some migratedConfigV4 })
  else pure ()

def makeGenesisBlock (db : Database) (defaultConfigFilePath : String) : Migration Unit := do
  installLiskCore world
  let (header,id) ← ofProcess (attempt (getBlockHeaderByHeight packages db context.flags.snapshotHeight))
  let network ← defined context.networkConstant "name"
  createGenesisBlock world network.name defaultConfigFilePath context.outputDir header id

def continueManually (reason snapshotDirPath : String) : String :=
  reason ++ " Please continue manually. In order to access legacy blockchain information posts-migration, " ++
    "please copy the contents of the " ++ snapshotDirPath ++ " directory to 'data/legacy.db' " ++
    "under the Lisk Core v4 data directory (e.g: " ++ defaultLiskCorePath ++ "/data/legacy.db/). Exiting!!!"

def stopNotReconfirmed : String := "Cannot proceed with Lisk Core v4 auto-start."

def stillRunning : String := "Cannot auto-start Lisk Core v4 as Lisk Core v3 is still running."

def stopNotConfirmed : String :=
  "User did not confirm Lisk Core v3 node shutdown. Skipping the Lisk Core v4 auto-start process."

-- The tries that are left. As in the choice of the start command, `numTriesLeft
-- >= 0` holds after every decrement.
def awaitLiskCoreV3Stopped (snapshotDirPath : String) : Nat → Migration Unit
  | 0 => pure ()
  | numTriesLeft+1 => do
    let isCoreV3Running ← isLiskCoreV3Running world context.liskCoreV3DataPath
    if isCoreV3Running then
      if 0 ≤ numTriesLeft then
        let isStopReconfirmed ← settled (ask world (.confirm .liskCoreV3StillRunning))
        if ¬ isStopReconfirmed then raise (continueManually stopNotReconfirmed snapshotDirPath)
        else if numTriesLeft = 0 ∧ isStopReconfirmed then
          let isCoreV3StillRunning ← isLiskCoreV3Running world context.liskCoreV3DataPath
          if isCoreV3StillRunning then raise (continueManually stillRunning snapshotDirPath)
      awaitLiskCoreV3Stopped snapshotDirPath numTriesLeft

def confirmAndStart (networkName : String) : Migration Unit := do
  let store ← readStore
  let isUserConfirmed ← settled (ask world (.confirm (.configuration store.configCoreV4)))
  if isUserConfirmed then
    startLiskCore host world context.liskCoreV3DataPath store.configCoreV4 networkName context.outputDir

def autoStartLiskCore (networkName snapshotDirPath : String) : Migration Unit := do
  let liskCoreExecPath ← execAsync world .whichLiskCore
  let liskCoreV4ConfigPath :=
    Path.resolve host.cwd [liskCoreExecPath,"../..","lib/node_modules/lisk-core/config/" ++ networkName]
  copyGenesisBlock world (context.outputDir ++ "/genesis_block.blob") (liskCoreV4ConfigPath ++ "/genesis_block.blob")
  let isLiskCoreV3Stopped ← settled (ask world (.confirm .stopLiskCoreV3))
  if isLiskCoreV3Stopped then
    awaitLiskCoreV3Stopped world context snapshotDirPath 3
    confirmAndStart host world context networkName
  else raise (continueManually stopNotConfirmed snapshotDirPath)

def autoStart (defaultConfigV4 : ApplicationConfig) (snapshotDirPath : String) : Migration Unit :=
  if context.useSnapshot ∨ ¬ context.flags.autoStartLiskCoreV4 then pure ()
  else
    handle
      (do
        if ¬ context.flags.autoMigrateConfig then
          update (fun store => { store with configCoreV4 := some defaultConfigV4.value })
        let network ← defined context.networkConstant "name"
        autoStartLiskCore host world context network.name snapshotDirPath)
      (fun err => throw (.migratorException ("Failed to auto-start Lisk Core v4.\nError: " ++ err.message)
        (err.codeOr .liskCoreStart)))

def tryBlock : Migration Unit := do
  prepareSnapshot host world context
  let (snapshotDirPath,db,genesisAssets) ← createAssets packages rounds world context
  let defaultConfigFilePath ← resolveConfigPathByNetworkID host context.networkIdentifier
  let defaultConfigV4 ← settled (ask world (.readDefaultConfig defaultConfigFilePath))
  writeGenesisAssets host world genesisAssets context.outputDir
  migrateConfig host world context defaultConfigV4
  makeGenesisBlock packages world context db defaultConfigFilePath
  writeGenesisBlock host world context.outputDir
  autoStart host world context defaultConfigV4 snapshotDirPath

end TryBlock

-- The four steps that the commands of a failed run may finish.
inductive RecoveryStep where
  | createGenesisBlock
  | backupLegacyDataDir
  | copyLegacyDB
  | startLiskCore
deriving DecidableEq

namespace RecoveryStep

def all : List RecoveryStep := [.createGenesisBlock,.backupLegacyDataDir,.copyLegacyDB,.startLiskCore]

-- The codes of the errors whose commands have a section for the step.
def codes : RecoveryStep → List ErrorCode
  | .createGenesisBlock => [.default,.invalidConfig,.genesisBlockCreate]
  | .backupLegacyDataDir => [.default,.invalidConfig,.genesisBlockCreate,.backupLegacyDataDir]
  | .copyLegacyDB => [.default,.invalidConfig,.genesisBlockCreate,.backupLegacyDataDir,.copyLegacyDB]
  | .startLiskCore => [.default,.invalidConfig,.genesisBlockCreate,.backupLegacyDataDir,.copyLegacyDB,.liskCoreStart]

def heading : RecoveryStep → List String
  | .createGenesisBlock =>
    ["\n","## Create the genesis block",
      "## NOTE: This requires installing Lisk Core v4 locally. Please visit " ++
        "https://lisk.com/documentation/lisk-core/v4/setup/npm.html for further instructions","\n"]
  | .backupLegacyDataDir => ["\n","## Backup Lisk Core v3 data directory","\n"]
  | .copyLegacyDB => ["\n","## Copy legacy (v3) blockchain information to Lisk Core v4 legacy.db","\n"]
  | .startLiskCore => ["\n","## Lisk Core v4 start command - Please modify if necessary","\n"]

end RecoveryStep

structure RecoverySection where
  step : RecoveryStep
  command : Option String

def RecoverySection.lines (recovery : RecoverySection) : List (Option String) :=
  recovery.step.heading.map some ++ [recovery.command] ++ ["\n",ruler,"\n"].map some

section CatchBlock
variable (context : Context)

def backupLegacyDataDirCommand : String := "mv " ++ context.liskCoreV3DataPath ++ " " ++ liskV3BackupDataDir host.homedir

-- `cp -r ${(resolve(…),LEGACY_DB_PATH)}`: a comma between two expressions gives
-- the value of the second one.
def copyLegacyDBCommand : String := "cp -r " ++ legacyDbPath

def recoveryCommand (networkName : String) (store : Store) : RecoveryStep → Option String
  | .createGenesisBlock => store.genesisBlockCreateCommand
  | .backupLegacyDataDir => some (backupLegacyDataDirCommand host context)
  | .copyLegacyDB => some copyLegacyDBCommand
  | .startLiskCore => some (store.liskCoreStartCommand.getD (baseStartCommand networkName))

def recoverySections (networkName : String) (store : Store) (code : Option Nat) : List RecoverySection :=
  (RecoveryStep.all.filter (fun step => includesCode step.codes code)).map
    (fun step => ⟨step,recoveryCommand host context networkName store step⟩)

def unfinishedMessage (message : String) : String :=
  "Migrator could not finish execution successfully due to: " ++ message ++
    "\nPlease check the commands to be executed in the file: " ++ context.outputDir ++ "/" ++ fileNameCommandsToExec

def catchBlock (error : Thrown) : Migration Unit := do
  let code := number error.code
  let network ← defined context.networkConstant "name"
  let store ← readStore
  let commandsToExecute := (recoverySections host context network.name store code).flatMap RecoverySection.lines
  writeCommandsToExec host world context.networkConstant context.flags.snapshotHeight context.outputDir commandsToExecute
  cliError (unfinishedMessage context error.message)

-- An error that no promise has handed on does not get here: it has ended the process.
def onFailure (error : Thrown) : Migration Unit := if error.caught then catchBlock host world context error else throw error

end CatchBlock

set_option linter.dupNamespace false in
def LiskMigrator.run (flags : Flags) : Migration Unit := do
  let context ← enterRun host world flags
  handle (tryBlock host packages rounds world context) (onFailure host world context)
  writeCommandsToExec host world context.networkConstant context.flags.snapshotHeight context.outputDir []

end Run

namespace Sample

def host : Host := ⟨"/home/lisk","/opt","/opt/migrator/dist",fun config _ => config,fun _ => true,fun _ _ => false⟩

def failed : Fault := ⟨"failed",none⟩

-- A world in which nothing that is asked for succeeds.
def refused : (request : Request) → request.Reply
  | .createIPCClient _ => .error failed
  | .getNodeInfo _ => .error failed
  | .subscribeNewBlock _ _ _ => .error failed
  | .observeChainHeight _ _ => .error failed
  | .download _ _ => .error failed
  | .extractTarBall _ _ => .error failed
  | .openDatabase _ => .error failed
  | .ensureDir _ => .error failed
  | .mkdir _ => .error failed
  | .access _ => false
  | .getFiles _ => .error failed
  | .read _ => .error failed
  | .readJSON _ => .error failed
  | .readDefaultConfig _ => .error failed
  | .write _ _ => .error failed
  | .writeJSON _ _ => .error failed
  | .writeGenesisAssets _ _ => .error failed
  | .createBackup _ _ => .error failed
  | .writeConfig _ _ => .error failed
  | .createChecksum _ => .error failed
  | .createTarball _ _ => .error failed
  | .copyFile _ _ => .error failed
  | .rename _ _ => .error failed
  | .copyDir _ _ => .error failed
  | .validate _ => false
  | .exec _ => .error ⟨"Command failed",.killed⟩
  | .confirm _ => .error failed
  | .prompt => .error failed
  | .listen _ => .error failed

end Sample

end LiskMigrator
