import LiskMigrator.Constants
import LiskMigrator.Types

namespace LiskMigrator

def getInteropModuleEntry : GenesisAssetEntry :=
  ⟨moduleNameInteroperability,.interoperability
    { ownChainName := chainNameMainchain
      ownChainNonce := 0
      chainInfos := []
      terminatedStateAccounts := []
      terminatedOutboxAccounts := [] }⟩

end LiskMigrator
