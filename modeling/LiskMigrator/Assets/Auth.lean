import LiskMigrator.Constants
import LiskMigrator.Types
import LiskMigrator.Library.Sorting

namespace LiskMigrator
open Text Sorting

def keyMapper (key : Bytes) : String := toHex key

def keyComparator (a b : Bytes) : Ordering := compare a b

-- The key lists are sorted in place: the account object that the caller holds
-- comes back with its lists in order.
def sortKeys (account : Account) : Account :=
  { account with keys := { account.keys with
      mandatoryKeys := sortBy keyComparator account.keys.mandatoryKeys
      optionalKeys := sortBy keyComparator account.keys.optionalKeys } }

def getAuthModuleEntryBuffer (account : Account) : Account × AuthStoreEntryBuffer :=
  let account := sortKeys account
  (account,
    { address := account.address.bytes
      authAccount :=
        { numberOfSignatures := account.keys.numberOfSignatures
          mandatoryKeys := account.keys.mandatoryKeys.map keyMapper
          optionalKeys := account.keys.optionalKeys.map keyMapper
          nonce := decimal account.sequence.nonce } })

def getAuthModuleEntry (authStoreEntries : List AuthStoreEntry) : GenesisAssetEntry :=
  ⟨moduleNameAuth,.auth authStoreEntries⟩

end LiskMigrator
