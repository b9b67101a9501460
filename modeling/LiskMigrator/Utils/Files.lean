import LiskMigrator.Utils.Config
import LiskMigrator.Utils.Network

namespace LiskMigrator
open Interaction Words

-- What chain.ts, config.ts and path.ts look up of the network, read and write.
section Files
variable (host : Host) (world : World migrator)

def networkOf (networkIdentifier : String) : Option NetworkConfigLocal := networkConstant.lookup networkIdentifier

def setTokenIDLskByNetID (networkIdentifier : String) : Migration Unit := do
  let network ← defined (networkOf networkIdentifier) "tokenID"
  update (fun store => { store with tokenIDLsk := some network.tokenID })

def setPrevSnapshotBlockHeightByNetID (networkIdentifier : String) : Migration Unit := do
  let network ← defined (networkOf networkIdentifier) "prevSnapshotBlockHeight"
  update (fun store => { store with prevSnapshotBlockHeight := some network.prevSnapshotBlockHeight })

def invalidArgType : ErrorName := ⟨"ERR_INVALID_ARG_TYPE",'E',"RR_INVALID_ARG_TYPE".toList,by decide⟩

-- The first entry of an empty directory is undefined, which join refuses.
def resolveSnapshotPath (useSnapshot : Bool) (snapshotPath : Option String) (dataDir liskCoreV3DataPath : String) : Migration String :=
  if ¬ useSnapshot then pure (Path.join [liskCoreV3DataPath,snapshotDir])
  else match snapshotPath.filter (fun path => path ≠ "" ∧ ¬ endsWith path ".tar.gz") with
    | some path => pure path
    | none => do
      match ← settled (ask world (.getFiles dataDir)) with
      | snapshotDirNameExtracted :: _ => return Path.join [dataDir,snapshotDirNameExtracted]
      | [] => throw (.error "The \"path\" argument must be of type string. Received undefined" invalidArgType)

-- `dirname/utils` is __dirname for the helpers of the entry file.
def utilsDirname : String := host.dirname ++ "/utils"

def resolveConfigPathByNetworkID (networkIdentifier : String) : Migration String := do
  let network ← defined (networkOf networkIdentifier) "name"
  return Path.join [utilsDirname host,"../..","config/" ++ network.name ++ "/config.json"]

def unidentifiedNetwork : String := "Migrator running against unidentified network. Cannot proceed."

def getConfig (corePath networkID : String) (customConfigPath : Option String) : Migration Json :=
  match networkOf networkID with
  | none => raise unidentifiedNetwork
  | some network => do
    let dataDirConfig ← settled (ask world (.readJSON (Path.join [corePath,"config",network.name,"config.json"])))
    match customConfigPath.filter (· ≠ "") with
    | none => return host.mergeDeep dataDirConfig (.object [])
    | some path =>
      let customConfig ← settled (ask world (.readJSON (resolveAbsolutePath host path)))
      return host.mergeDeep dataDirConfig customConfig

def createBackup (config : Json) : Migration Unit :=
  settled (ask world (.createBackup (Path.join [utilsDirname host,"../..","backup"]) config))

def writeConfig (config : Json) (outputDir : String) : Migration Unit := settled (ask world (.writeConfig outputDir config))

end Files
end LiskMigrator
