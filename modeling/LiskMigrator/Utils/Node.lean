import LiskMigrator.Utils.Files
import LiskMigrator.Utils.StartFlags

namespace LiskMigrator
open Interaction Words

section Node
variable (host : Host) (world : World migrator)

def installLiskCore : Migration Unit := do
  let _ ← execAsync world .installLiskCore

def installPM2 : Migration Unit := do
  let _ ← execAsync world .installPM2

-- Any failure to reach the node counts as a node that does not run.
def isLiskCoreV3Running (liskCorePath : String) : Migration Bool :=
  handle
    (do
      getAPIClient world liskCorePath true
      let _ ← settled (ask world (.getNodeInfo liskCorePath))
      return true)
    (fun _ => return false)

def backupLegacyDataDir (liskCoreV3DataPath : String) : Migration Unit :=
  handle
    (do
      if ¬ includes liskCoreV3DataPath ".lisk/lisk-core" then
        settled (ask world (.mkdir (host.homedir ++ "/.lisk")))
      settled (ask world (.rename liskCoreV3DataPath (liskV3BackupDataDir host.homedir))))
    (fun err => throw (.migratorException ("Unable to backup Lisk Core v3 data directory due to: " ++ err.message)
      .backupLegacyDataDir))

def copyLegacyDB : Migration Unit :=
  handle
    (settled (ask world (.copyDir (Path.resolve host.cwd [liskV3BackupDataDir host.homedir,snapshotDir])
      (resolveAbsolutePath host legacyDbPath))))
    (fun err => throw (.migratorException ("Unable to copy legacy.db due to: " ++ err.message) .copyLegacyDB))

def getFinalConfigPath (outputDir network : String) : Migration String := do
  if ← ask world (.access (outputDir ++ "/config.json")) then return Path.resolve host.cwd [outputDir,"config.json"]
  else return Path.resolve host.cwd [utilsDirname host,"../..","config",network,"config.json"]

def baseStartCommand (network : String) : String := "lisk-core start --network " ++ network

-- The lines that the help prints of the flags.
def allowedFlagsArray (allowedFlags : String) : List String := (split (· = '\n') allowedFlags).filter (· ≠ "")

def invalidStartCommand : String :=
  "Invalid Lisk Core start command flags provided. Cannot proceed with Lisk Core v4 auto-start. Please continue manually. Exiting!!!"

-- The tries that are left, with the input of the next one. `numTriesLeft >= 0`
-- holds after every decrement of the source, so the last try asks once more.
def customizeStartCommand (network : String) (allowedFlags : List String) : Nat → String → Migration String
  | 0,_ => pure (baseStartCommand network)
  | numTriesLeft+1,userInput =>
    if validateStartCommandFlags allowedFlags userInput then pure (baseStartCommand network ++ " " ++ userInput)
    else if 0 ≤ numTriesLeft then do
      let userInput ← settled (ask world .prompt)
      customizeStartCommand network allowedFlags numTriesLeft userInput
    else raise invalidStartCommand

def recordStartCommand (command : String) : Migration Unit :=
  update (fun store => { store with liskCoreStartCommand := some command })

def resolveLiskCoreStartCommand (network configPath : String) : Migration String := do
  let defaultStartCommand := baseStartCommand network ++ " --config " ++ configPath
  let isUserConfirmed ← settled (ask world (.confirm (.customizeStartCommand defaultStartCommand)))
  if ¬ isUserConfirmed then
    recordStartCommand defaultStartCommand
    return defaultStartCommand
  let userInput ← settled (ask world .prompt)
  let allowedFlags ← execAsync world .liskCoreStartHelp
  let customStartCommand ← customizeStartCommand world network (allowedFlagsArray allowedFlags) 3 userInput
  recordStartCommand customStartCommand
  return customStartCommand

-- `config?.network?.port ?? fallback`
def portOr (config : Option Json) (path : List String) (fallback : Nat) : Json :=
  match config.bind (·.find path) with
  | none => .number fallback
  | some .null => .number fallback
  | some port => port

def requirePort (port : Json) (message : Json → String) : Migration Unit := do
  let available ← isPortAvailable world port
  raiseIf (¬ available) (message port)

def p2pPortTaken (port : Json) : String := "Port " ++ jsonText port ++ " is not available for P2P communication."

def rpcPortTaken (port : Json) : String := "Port " ++ jsonText port ++ " is not available to start the RPC server."

def pm2FileName : String := "pm2.migrator.config.json"

def pm2Config (script : String) : Json := .object [("name",.string "lisk-core-v4"),("script",.string script)]

def pm2Refused : String :=
  "User did not confirm to start Lisk Core v4 with the customized PM2 config. Skipping the Lisk Core v4 auto-start process. " ++
    "Please start the node manually."

-- startLiskCore up to the backup, and behind the copy of the database. The port
-- for RPC is read from the same place as the one for P2P.
def checkPorts (config : Option Json) : Migration Unit := do
  requirePort world (portOr config ["network","port"] defaultPortP2P) p2pPortTaken
  requirePort world (portOr config ["network","port"] defaultPortRPC) rpcPortTaken

def launchLiskCore (network outputDir : String) : Migration Unit := do
  let configPath ← getFinalConfigPath host world outputDir network
  let script ← resolveLiskCoreStartCommand world network configPath
  let isUserConfirmed ← settled (ask world (.confirm (.pm2Configuration script)))
  cliErrorIf (¬ isUserConfirmed) pm2Refused
  installPM2 world
  let pm2FilePath := Path.resolve host.cwd [outputDir,pm2FileName]
  settled (ask world (.writeJSON pm2FilePath (pm2Config script)))
  let _ ← execAsync world (.startPM2 pm2FilePath)

def startLiskCore (liskCoreV3DataPath : String) (config : Option Json) (network outputDir : String) : Migration Unit :=
  handle
    (do
      checkPorts world config
      backupLegacyDataDir host world liskCoreV3DataPath
      copyLegacyDB host world
      launchLiskCore host world network outputDir)
    (fun err => throw (.migratorException err.message (err.codeOr .liskCoreStart)))

end Node
end LiskMigrator
