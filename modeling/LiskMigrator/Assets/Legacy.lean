import LiskMigrator.Packages
import LiskMigrator.Library.Sorting

namespace LiskMigrator
open Text Sorting Outcome

-- The module-level variables: totalLSKSupply of createAsset.ts and
-- legacyReserveAmount of assets/legacy.ts. They live as long as the process.
structure Process where
  totalLSKSupply : Nat
  legacyReserveAmount : Nat
deriving DecidableEq

def Process.fresh : Process := ⟨0,0⟩

def legacyAccount (account : UnregisteredAccount) : LegacyStoreEntryBuffer :=
  ⟨account.address,decimal account.balance⟩

def legacyStoreEntry (entry : LegacyStoreEntryBuffer) : LegacyStoreEntry := ⟨toHex entry.address,entry.balance⟩

def sortedLegacyAccounts (unregisteredAddresses : List UnregisteredAccount) : List LegacyStoreEntry :=
  (sortBy (compareOn LegacyStoreEntryOf.address) (unregisteredAddresses.map legacyAccount)).map legacyStoreEntry

def getLegacyModuleEntry (packages : Packages) (encodedUnregisteredAddresses : Bytes)
    (legacyReserveAccount : Option Account) : Step Failure Process GenesisAssetEntry := do
  modify (fun process => { process with
    legacyReserveAmount := legacyReserveAccount.elim 0 (fun account => account.token.balance) })
  let unregisteredAddresses ← attempt (packages.codec.unregisteredAddresses encodedUnregisteredAddresses)
  modify (fun process => unregisteredAddresses.foldl (fun process account =>
    { process with legacyReserveAmount := process.legacyReserveAmount+account.balance }) process)
  return ⟨moduleNameLegacy,.legacy (sortedLegacyAccounts unregisteredAddresses)⟩

def getLegacyReserveAmount : Step Failure Process Nat := do
  return (← get).legacyReserveAmount

end LiskMigrator
