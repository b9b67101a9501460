import LiskMigrator.Packages
import LiskMigrator.Library.Sorting

namespace LiskMigrator
open Text Sorting

-- The names compared are lower-case ASCII words, which the collation 'en'
-- orders as their code points do.
def localeCompare (a b : String) : Ordering := compare a b

def getLockedBalances (account : Account) : List LockedBalance :=
  let amount := account.dpos.sentVotes.foldl (fun amount vote => amount+vote.amount) 0
  let amount := account.dpos.unlocking.foldl (fun amount unlockingObj => amount+unlockingObj.amount) amount
  if amount > 0 then [⟨moduleNamePos,decimal amount⟩] else []

def createLegacyReserveAccount (packages : Packages) (legacyReserveAccount : Option Account)
    (legacyReserveAmount : Nat) (tokenID : String) : UserSubstoreEntryBuffer :=
  let lockedBalances := legacyReserveAccount.elim [] getLockedBalances
  let lockedBalances := lockedBalances ++ [⟨moduleNameLegacy,decimal legacyReserveAmount⟩]
  let lockedBalances := sortBy (fun a b => localeCompare a.module b.module) lockedBalances
  { address := packages.addressLegacyReserve
    tokenID := fromHex tokenID
    availableBalance := decimal (legacyReserveAccount.elim 0 (fun account => account.token.balance))
    lockedBalances }

def createUserSubstoreArrayEntry (packages : Packages) (account : Account) (tokenID : String) :
    Option UserSubstoreEntryBuffer :=
  if packages.addressLegacyReserve ≠ account.address.bytes then
    some
      { address := account.address.bytes
        tokenID := fromHex tokenID
        availableBalance := decimal account.token.balance
        lockedBalances := getLockedBalances account }
  else none

def getTokenModuleEntry (userSubstore : List UserSubstoreEntry) (supplySubstore : List SupplySubstoreEntry)
    (escrowSubstore : List EscrowSubstoreEntry) (supportedTokensSubstore : List SupportedTokensSubstoreEntry) :
    GenesisAssetEntry :=
  ⟨moduleNameToken,.token ⟨userSubstore,supplySubstore,escrowSubstore,supportedTokensSubstore⟩⟩

end LiskMigrator
