import LiskMigrator.Library.Bytes

namespace LiskMigrator

-- A Buffer is an object: two of them may hold the same bytes. `ref` tells the
-- objects apart, and only a lookup by identity ever reads it. A field whose
-- identity nothing observes is given by its bytes alone.
structure Buffer where
  ref : Nat
  bytes : Bytes
deriving DecidableEq

structure UnregisteredAccount where
  address : Bytes
  balance : Nat
deriving DecidableEq

structure TokenState where
  balance : Nat
deriving DecidableEq

structure SequenceState where
  nonce : Nat
deriving DecidableEq

structure KeysState where
  mandatoryKeys : List Bytes
  optionalKeys : List Bytes
  numberOfSignatures : Nat
deriving DecidableEq

structure DelegateState where
  username : String
  pomHeights : List Nat
  consecutiveMissedBlocks : Nat
  lastForgedHeight : Nat
  isBanned : Bool
  totalVotesReceived : Nat
deriving DecidableEq

structure SentVote where
  delegateAddress : Bytes
  amount : Nat
deriving DecidableEq

structure Unlocking where
  delegateAddress : Bytes
  amount : Nat
  unvoteHeight : Nat
deriving DecidableEq

structure DposState where
  delegate : DelegateState
  sentVotes : List SentVote
  unlocking : List Unlocking
deriving DecidableEq

structure Account where
  address : Buffer
  token : TokenState
  sequence : SequenceState
  keys : KeysState
  dpos : DposState
deriving DecidableEq

structure DelegateWeight where
  address : Buffer
  voteWeight : Nat
deriving DecidableEq

structure VoteWeight where
  round : Nat
  delegates : List DelegateWeight
deriving DecidableEq

structure VoteWeightsWrapper where
  voteWeights : List VoteWeight
deriving DecidableEq

structure BlockHeader where
  version : Nat
  timestamp : Nat
  height : Nat
  previousBlockID : Bytes
  transactionRoot : Bytes
  generatorPublicKey : Bytes
  reward : Nat
  asset : Bytes
  signature : Bytes
deriving DecidableEq

structure Transaction where
  moduleID : Nat
  assetID : Nat
  nonce : Nat
  fee : Nat
  senderPublicKey : Bytes
  asset : Bytes
  signatures : List Bytes
deriving DecidableEq

-- An entry is built under a binary address and written under a text one: the
-- source's `Buffer` variant of each entry type differs in nothing else.
structure LegacyStoreEntryOf (Address : Type) where
  address : Address
  balance : String
deriving DecidableEq

abbrev LegacyStoreEntryBuffer := LegacyStoreEntryOf Bytes
abbrev LegacyStoreEntry := LegacyStoreEntryOf String

structure AuthAccountEntry where
  numberOfSignatures : Nat
  mandatoryKeys : List String
  optionalKeys : List String
  nonce : String
deriving DecidableEq

structure AuthStoreEntryOf (Address : Type) where
  address : Address
  authAccount : AuthAccountEntry
deriving DecidableEq

abbrev AuthStoreEntryBuffer := AuthStoreEntryOf Bytes
abbrev AuthStoreEntry := AuthStoreEntryOf String

structure LockedBalance where
  module : String
  amount : String
deriving DecidableEq

structure UserSubstoreEntryOf (Binary : Type) where
  address : Binary
  tokenID : Binary
  availableBalance : String
  lockedBalances : List LockedBalance
deriving DecidableEq

abbrev UserSubstoreEntryBuffer := UserSubstoreEntryOf Bytes
abbrev UserSubstoreEntry := UserSubstoreEntryOf String

structure SupplySubstoreEntry where
  tokenID : String
  totalSupply : String
deriving DecidableEq

structure EscrowSubstoreEntry where
  escrowChainID : Bytes
  tokenID : Bytes
  amount : Nat
deriving DecidableEq

structure SupportedTokensSubstoreEntry where
  chainID : Bytes
  supportedTokenIDs : List Bytes
deriving DecidableEq

structure TokenStoreEntry where
  userSubstore : List UserSubstoreEntry
  supplySubstore : List SupplySubstoreEntry
  escrowSubstore : List EscrowSubstoreEntry
  supportedTokensSubstore : List SupportedTokensSubstoreEntry
deriving DecidableEq

structure SharingCoefficient where
  tokenID : String
  coefficient : Bytes
deriving DecidableEq

structure ValidatorEntryOf (Address : Type) where
  address : Address
  name : String
  blsKey : String
  proofOfPossession : String
  generatorKey : String
  lastGeneratedHeight : Nat
  isBanned : Bool
  reportMisbehaviorHeights : List Nat
  consecutiveMissedBlocks : Nat
  commission : Nat
  lastCommissionIncreaseHeight : Int
  sharingCoefficients : List SharingCoefficient
deriving DecidableEq

abbrev ValidatorEntryBuffer := ValidatorEntryOf Bytes
abbrev ValidatorEntry := ValidatorEntryOf String

structure Stake where
  validatorAddress : String
  amount : Nat
  sharingCoefficients : List SharingCoefficient
deriving DecidableEq

structure PendingUnlock where
  validatorAddress : String
  amount : Nat
  unstakeHeight : Nat
deriving DecidableEq

structure StakerOf (Address : Type) where
  address : Address
  stakes : List Stake
  pendingUnlocks : List PendingUnlock
deriving DecidableEq

abbrev StakerBuffer := StakerOf Bytes
abbrev Staker := StakerOf String

structure GenesisDataEntry where
  initRounds : Nat
  initValidators : List String
deriving DecidableEq

structure PoSStoreEntry where
  validators : List ValidatorEntry
  stakers : List Staker
  genesisData : GenesisDataEntry
deriving DecidableEq

-- The mainchain starts without interoperability state: the three lists of the
-- source are empty in every asset it builds, so only their length is kept.
structure GenesisInteroperability where
  ownChainName : String
  ownChainNonce : Nat
  chainInfos : List Empty
  terminatedStateAccounts : List Empty
  terminatedOutboxAccounts : List Empty
deriving DecidableEq

inductive GenesisData where
  | legacy (accounts : List LegacyStoreEntry)
  | auth (authDataSubstore : List AuthStoreEntry)
  | token (store : TokenStoreEntry)
  | pos (store : PoSStoreEntry)
  | interoperability (store : GenesisInteroperability)
deriving DecidableEq

structure GenesisAssetEntry where
  module : String
  data : GenesisData
deriving DecidableEq

structure NetworkConfigLocal where
  name : String
  tokenID : String
  prevSnapshotBlockHeight : Nat
deriving DecidableEq

end LiskMigrator
