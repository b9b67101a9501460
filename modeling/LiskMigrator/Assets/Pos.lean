import LiskMigrator.Utils.Block
import LiskMigrator.Library.Sorting

namespace LiskMigrator
open Text Sorting Collections

-- Math.floor of the quotient: the heights are far below the numbers that a
-- double cannot represent.
def ceiling (a b : Int) : Except Failure Int :=
  if b = 0 then .error (.thrown "Can not divide by 0.") else .ok ((a+b-1).fdiv b)

def delegateSet (accounts : List Account) : List String :=
  accounts.foldl (fun members account =>
    if account.dpos.delegate.username ≠ "" then add members (toHex account.address.bytes) else members) []

def keyAddress (packages : Packages) (key : String) : String := toHex (packages.getAddressFromPublicKey (fromHex key))

-- The two loops of getValidatorKeys over the key sets it has awaited.
def keysOfBlocks (packages : Packages) (blockPublicKeySet : List String) : Record String String :=
  blockPublicKeySet.foldl (fun keys key => keys.set (keyAddress packages key) key) []

def keysOfTransactions (packages : Packages) (delegates blockPublicKeySet txPublicKeySet : List String)
    (keys : Record String String) : Record String String :=
  txPublicKeySet.foldl (fun keys key =>
    if key ∈ blockPublicKeySet then keys
    else
      let trxSenderAddress := keyAddress packages key
      if trxSenderAddress ∈ delegates then keys.set trxSenderAddress key else keys) keys

def getValidatorKeys (packages : Packages) (rounds : Nat) (accounts : List Account) (db : Database) (pageSize : Int) :
    Except Failure (Record String String) := do
  let blockPublicKeySet ← getBlockPublicKeySet packages rounds db pageSize
  let txPublicKeySet ← getTransactionPublicKeySet packages rounds db pageSize
  return keysOfTransactions packages (delegateSet accounts) blockPublicKeySet txPublicKeySet
    (keysOfBlocks packages blockPublicKeySet)

-- `validatorKeys[address] || INVALID_ED25519_KEY`: an empty text is falsy.
def generatorKeyOf (validatorKeys : Record String String) (validatorAddress : String) : String :=
  match validatorKeys.get validatorAddress with
  | none => invalidEd25519Key
  | some key => if key = "" then invalidEd25519Key else key

def createValidatorsArrayEntry (account : Account) (validatorKeys : Record String String) (snapshotHeight : Int)
    (tokenID : String) : Option ValidatorEntryBuffer :=
  if account.dpos.delegate.username ≠ emptyString then
    let validatorAddress := toHex account.address.bytes
    some
      { address := account.address.bytes
        name := account.dpos.delegate.username
        blsKey := invalidBlsKey
        proofOfPossession := dummyProofOfPossession
        generatorKey := generatorKeyOf validatorKeys validatorAddress
        lastGeneratedHeight := account.dpos.delegate.lastForgedHeight
        isBanned := true
        reportMisbehaviorHeights := account.dpos.delegate.pomHeights
        consecutiveMissedBlocks := account.dpos.delegate.consecutiveMissedBlocks
        lastCommissionIncreaseHeight := snapshotHeight
        commission := maxCommission
        sharingCoefficients := [⟨tokenID,q96Zero⟩] }
  else none

def stakeOf (packages : Packages) (tokenID : String) (vote : SentVote) : Stake :=
  { validatorAddress := packages.getLisk32AddressFromAddress vote.delegateAddress
    amount := vote.amount
    sharingCoefficients := [⟨tokenID,q96Zero⟩] }

def getStakes (packages : Packages) (account : Account) (tokenID : String) : List Stake :=
  (sortBy (compareOn SentVote.delegateAddress) account.dpos.sentVotes).map (stakeOf packages tokenID)

def pendingUnlock (packages : Packages) (unlock : Unlocking) : PendingUnlock :=
  ⟨packages.getLisk32AddressFromAddress unlock.delegateAddress,unlock.amount,unlock.unvoteHeight⟩

def createStakersArrayEntry (packages : Packages) (account : Account) (tokenID : String) : Option StakerBuffer :=
  if account.dpos.sentVotes.length ≠ 0 ∨ account.dpos.unlocking.length ≠ 0 then
    some
      { address := account.address.bytes
        stakes := getStakes packages account tokenID
        pendingUnlocks := account.dpos.unlocking.map (pendingUnlock packages) }
  else none

-- new Map([[address,isBanned],…]): the keys are the Buffer objects themselves,
-- and a lookup compares objects, not bytes.
def accountBannedMap (accounts : List Account) : Record Nat Bool :=
  accounts.foldl (fun map account => map.set account.address.ref account.dpos.delegate.isBanned) []

def initValidators (accounts : List Account) (delegates : List DelegateWeight) : List Buffer :=
  delegates.foldl (fun initValidators delegate =>
    let isAccountBanned := ((accountBannedMap accounts).get delegate.address.ref).getD false
    if isAccountBanned then initValidators else initValidators ++ [delegate.address]) []

def sortedInitValidators (accounts : List Account) (delegates : List DelegateWeight) : List Buffer :=
  sortBy (compareOn Buffer.bytes) ((initValidators accounts delegates).take 101)

def unavailable (r : Int) : Failure :=
  .thrown s!"Delegate vote weights for round {r-2} (r-2) unavailable, cannot proceed."

def createGenesisDataObj (packages : Packages) (accounts : List Account) (delegatesVoteWeights : VoteWeightsWrapper)
    (snapshotHeight : Int) : Except Failure GenesisDataEntry := do
  let r ← ceiling snapshotHeight roundLength
  match delegatesVoteWeights.voteWeights.find? (fun voteWeight => voteWeight.round = r-2) with
  | none => .error (unavailable r)
  | some voteWeightR2 =>
    if voteWeightR2.delegates.length = 0 then .error (unavailable r)
    else
      .ok
        { initRounds := posInitRounds
          initValidators := (sortedInitValidators accounts voteWeightR2.delegates).map
            (fun entry => packages.getLisk32AddressFromAddress entry.bytes) }

def getPoSModuleEntry (validators : List ValidatorEntry) (stakers : List Staker) (genesisData : GenesisDataEntry) :
    GenesisAssetEntry :=
  ⟨moduleNamePos,.pos ⟨validators,stakers,genesisData⟩⟩

end LiskMigrator
