import LiskMigrator.Types

namespace LiskMigrator
open Text

def moduleNameLegacy : String := "legacy"
def moduleNameAuth : String := "auth"
def moduleNameToken : String := "token"
def moduleNamePos : String := "pos"
def moduleNameInteroperability : String := "interoperability"

def dbKeyChainState : String := "chain"
def dbKeyAccountsAddress : String := "accounts:address"
def dbKeyBlocksHeight : String := "blocks:height"
def dbKeyBlocksId : String := "blocks:id"
def dbKeyTransactionsId : String := "transactions:id"

def chainStateDelegateVoteWeights : String := "dpos:delegateVoteWeights"
def chainStateUnregisteredAddresses : String := "unregisteredAddresses"

def posInitRounds : Nat := 587
def maxCommission : Nat := 10000
def numberActiveValidators : Int := 101
def numberStandbyValidators : Int := 2
def roundLength : Int := numberActiveValidators+numberStandbyValidators

def maxBftWeightCap : Nat := 1000
def snapshotTimeGap : Nat := 3600

def binaryAddressLength : Nat := 20

def invalidBlsKey : String := toHex (List.replicate 48 0)
def invalidEd25519Key : String := toHex (List.replicate 32 255)
def dummyProofOfPossession : String := toHex (List.replicate 96 0)

def chainNameMainchain : String := "lisk_mainchain"
def q96Zero : Bytes := []
def emptyString : String := ""

def tokenIdLskMainnet : String := "0000000000000000"
def tokenIdLskTestnet : String := "0100000000000000"

def networkConstant : List (String × NetworkConfigLocal) :=
  [("4c09e6a781fc4c7bdb936ee815de8f94190f8a7519becd9de2081832be309a99",⟨"mainnet",tokenIdLskMainnet,16270293⟩),
    ("15f0dacc1060e91818224a94286b13aa04279c640bd5d6f193182031d133df7c",⟨"testnet",tokenIdLskTestnet,14075260⟩)]

def defaultPortP2P : Nat := 7667
def defaultPortRPC : Nat := 7887

def defaultDataDir : String := "data"
def snapshotDir : String := defaultDataDir ++ "/backup"
def minSupportedLiskCoreVersion : String := "3.1.0"
def defaultLiskCorePath : String := "~/.lisk/lisk-core"
def legacyDbPath : String := defaultLiskCorePath ++ "/" ++ defaultDataDir ++ "/legacy.db"

def defaultVersion : String := "0.1.0"

def fileNameCommandsToExec : String := "commandsToExecute.txt"
def fileNameForgingStatus : String := "forgingStatus.json"
def fileNameKeys : String := "keys.json"
def fileNameGenesisAssets : String := "genesis_assets.json"
def fileNameGenesisBlockJson : String := "genesis_block.json"
def fileNameGenesisBlockBlob : String := "genesis_block.blob"

inductive ErrorCode where
  | default
  | invalidConfig
  | genesisBlockCreate
  | liskCoreStart
  | backupLegacyDataDir
  | copyLegacyDB
deriving DecidableEq

def ErrorCode.value : ErrorCode → Nat
  | .default => 0
  | .invalidConfig => 1
  | .genesisBlockCreate => 2
  | .liskCoreStart => 3
  | .backupLegacyDataDir => 4
  | .copyLegacyDB => 5

-- LISK_V3_BACKUP_DATA_DIR, by the home directory it is built from.
def liskV3BackupDataDir (homedir : String) : String := homedir ++ "/.lisk/lisk-core-v3"

end LiskMigrator
