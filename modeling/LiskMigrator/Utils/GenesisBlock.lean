import LiskMigrator.Requests
import LiskMigrator.Utils.Block

namespace LiskMigrator
open Interaction Text

section Files
variable (host : Host) (world : World migrator)

-- The command and its error text, from the header that the try block reads.
def genesisBlockCreateCommand (network configFilepath outputDir : String) (header : BlockHeader) (id : Bytes) : String :=
  "lisk-core genesis-block:create --network " ++ network ++ " --config=" ++ configFilepath ++ " --output=" ++ outputDir ++
    " --assets-file=" ++ outputDir ++ "/genesis_assets.json --height=" ++ decimal (header.height+1) ++
    " --previous-block-id=" ++ toHex id ++ " --timestamp=" ++ decimal (header.timestamp+snapshotTimeGap) ++ " --export-json"

def createGenesisBlock (network configFilepath outputDir : String) (header : BlockHeader) (id : Bytes) : Migration Unit :=
  let command := genesisBlockCreateCommand network configFilepath outputDir header id
  handle
    (do
      update (fun store => { store with genesisBlockCreateCommand := some command })
      let _ ← execAsync world (.createGenesisBlock command))
    (fun error => throw (.migratorException ("Failed to create genesis block.\nError: " ++ error.message) .genesisBlockCreate))

def writeGenesisAssets (genesisAssets : List GenesisAssetEntry) (outputDir : String) : Migration Unit :=
  settled (ask world (.writeGenesisAssets (Path.resolve host.cwd [outputDir,fileNameGenesisAssets]) genesisAssets))

def copyGenesisBlock (currGenesisBlockFilepath liskCoreV4ConfigPath : String) : Migration Unit :=
  settled (ask world (.copyFile currGenesisBlockFilepath liskCoreV4ConfigPath))

-- What writeGenesisBlock does for the BLOB and again for the JSON file.
def writeGenesisFile (outputDir fileName : String) : Migration Unit := do
  let filepath := Path.resolve host.cwd [outputDir,fileName]
  let hash ← settled (ask world (.createChecksum filepath))
  settled (ask world (.write (Path.resolve host.cwd [outputDir,fileName ++ ".SHA256"]) hash))
  settled (ask world (.createTarball filepath outputDir))
  let tarballHash ← settled (ask world (.createChecksum (filepath ++ ".tar.gz")))
  settled (ask world (.write (Path.resolve host.cwd [outputDir,fileName ++ ".tar.gz.SHA256"]) tarballHash))

def writeGenesisBlock (outputDir : String) : Migration Unit := do
  writeGenesisFile host world outputDir fileNameGenesisBlockBlob
  writeGenesisFile host world outputDir fileNameGenesisBlockJson

end Files
end LiskMigrator
