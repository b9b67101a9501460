import LiskMigrator.Assets.Auth
import LiskMigrator.Assets.Interoperability
import LiskMigrator.Assets.Legacy
import LiskMigrator.Assets.Pos
import LiskMigrator.Assets.Token

namespace LiskMigrator
open Text Sorting Collections Outcome

-- BigInt(text). It throws on a text that is no number; the texts it is given
-- here are all decimals of amounts.
def bigInt (text : String) : Nat := (readDecimal text).getD 0

-- What the loop over the accounts has pushed and added so far, with the
-- account objects as the loop leaves them.
structure Collected where
  accounts : List Account
  authSubstoreEntries : List AuthStoreEntryBuffer
  userSubstoreEntries : List UserSubstoreEntryBuffer
  totalLSKSupply : Nat
  validators : List ValidatorEntryBuffer
  stakers : List StakerBuffer

def Collected.start (totalLSKSupply : Nat) : Collected := ⟨[],[],[],totalLSKSupply,[],[]⟩

section Loop
variable (packages : Packages) (validatorKeys : Record String String) (snapshotHeight : Int) (tokenID : String)

def collectAccount (collected : Collected) (account : Account) : Collected :=
  let (account,authModuleAsset) := getAuthModuleEntryBuffer account
  let userSubstoreEntry := createUserSubstoreArrayEntry packages account tokenID
  let totalLSKSupply := collected.totalLSKSupply+account.token.balance
  let lockedBalances := getLockedBalances account
  let totalLSKSupply := lockedBalances.foldl (fun accumulator lockedBalance =>
    accumulator+bigInt lockedBalance.amount) totalLSKSupply
  let validator := createValidatorsArrayEntry account validatorKeys snapshotHeight tokenID
  let staker := createStakersArrayEntry packages account tokenID
  { accounts := collected.accounts ++ [account]
    authSubstoreEntries := collected.authSubstoreEntries ++ [authModuleAsset]
    userSubstoreEntries := collected.userSubstoreEntries ++ userSubstoreEntry.toList
    totalLSKSupply
    validators := collected.validators ++ validator.toList
    stakers := collected.stakers ++ staker.toList }

def collectAccounts (accounts : List Account) : Step Failure Process Collected := do
  let process ← get
  let collected := accounts.foldl (collectAccount packages validatorKeys snapshotHeight tokenID)
    (.start process.totalLSKSupply)
  set { process with totalLSKSupply := collected.totalLSKSupply }
  return collected

end Loop

def userSubstoreComparator (a b : UserSubstoreEntryBuffer) : Ordering :=
  if a.address = b.address then compare a.tokenID b.tokenID else compare a.address b.address

section Emitted
variable (packages : Packages)

def userSubstoreEntry (entry : UserSubstoreEntryBuffer) : UserSubstoreEntry :=
  { entry with
    address := packages.getLisk32AddressFromAddress entry.address
    tokenID := toHex entry.tokenID }

def validatorEntry (entry : ValidatorEntryBuffer) : ValidatorEntry :=
  { entry with address := packages.getLisk32AddressFromAddress entry.address }

def stakerEntry (entry : StakerBuffer) : Staker :=
  { entry with address := packages.getLisk32AddressFromAddress entry.address }

def authStoreEntry (entry : AuthStoreEntryBuffer) : AuthStoreEntry :=
  { entry with address := packages.getLisk32AddressFromAddress entry.address }

end Emitted

-- The bounds of the account scan, and the records it delivers.
def accountKey (address : Bytes) : Bytes := bufferFrom (dbKeyAccountsAddress ++ ":" ++ latin1 address)

def readAccounts (packages : Packages) (db : Database) : Except Failure (List Account) := do
  let accountStream ← db.createReadStream
    ⟨accountKey (List.replicate 20 0),accountKey (List.replicate 20 255),none⟩
  let allAccounts ← getDataFromDBStream accountStream packages.codec.account
  return placeAccounts allAccounts

def chainStateKey (name : String) : Bytes := bufferFrom (dbKeyChainState ++ ":" ++ name)

def CreateAsset.init (packages : Packages) (rounds : Nat) (db : Database) (snapshotHeight : Int) (tokenID : String) (pageSize : Int) :
    Step Failure Process (List GenesisAssetEntry) := do
  let encodedUnregisteredAddresses ← attempt (db.get (chainStateKey chainStateUnregisteredAddresses))
  let allAccounts ← attempt (readAccounts packages db)
  let accounts := allAccounts.filter (fun acc => acc.address.bytes.length = binaryAddressLength)
  let legacyReserveAccount := accounts.find? (fun account => account.address.bytes = packages.addressLegacyReserve)
  let legacyModuleAssets ← getLegacyModuleEntry packages encodedUnregisteredAddresses legacyReserveAccount
  let legacyReserveAmount ← getLegacyReserveAmount
  let legacyReserve := createLegacyReserveAccount packages legacyReserveAccount legacyReserveAmount tokenID
  let validatorKeys ← attempt (getValidatorKeys packages rounds accounts db pageSize)
  let collected ← collectAccounts packages validatorKeys snapshotHeight tokenID accounts
  let userSubstoreEntries := collected.userSubstoreEntries ++ [legacyReserve]
  let sortedUserSubstore := (sortBy userSubstoreComparator userSubstoreEntries).map (userSubstoreEntry packages)
  let supplySubstoreEntries := [⟨tokenID,decimal (collected.totalLSKSupply+legacyReserveAmount)⟩]
  let sortedValidators := (sortBy (compareOn ValidatorEntryOf.address) collected.validators).map (validatorEntry packages)
  let sortedStakers := (sortBy (compareOn StakerOf.address) collected.stakers).map (stakerEntry packages)
  let encodedDelegatesVoteWeights ← attempt (db.get (chainStateKey chainStateDelegateVoteWeights))
  let decodedDelegatesVoteWeights ← attempt (packages.codec.voteWeights encodedDelegatesVoteWeights)
  let genesisData ← attempt (createGenesisDataObj packages collected.accounts
    (placeVoteWeights allAccounts.length decodedDelegatesVoteWeights) snapshotHeight)
  let sortedAuthSubstoreEntries :=
    (sortBy (compareOn AuthStoreEntryOf.address) collected.authSubstoreEntries).map (authStoreEntry packages)
  let assets :=
    [legacyModuleAssets,
      getAuthModuleEntry sortedAuthSubstoreEntries,
      getTokenModuleEntry sortedUserSubstore supplySubstoreEntries [] [],
      getPoSModuleEntry sortedValidators sortedStakers genesisData,
      getInteropModuleEntry]
  return sortBy (fun a b => localeCompare a.module b.module) assets

end LiskMigrator
