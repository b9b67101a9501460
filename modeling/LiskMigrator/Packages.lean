import Mathlib.Data.Nat.Pairing
import LiskMigrator.Constants
import LiskMigrator.Types
import LiskMigrator.Library.Latin1
import LiskMigrator.Library.Paging

namespace LiskMigrator
open Text

-- What ends a call early: an Error that is thrown, with its message, one that a
-- listener throws and no promise hands on, or a loop that was not given enough
-- rounds to end.
inductive Failure where
  | thrown (message : String)
  | unhandled (message : String)
  | unfinished
deriving DecidableEq

-- The body of an async listener. Nobody awaits the promise that it returns, and
-- node ends the process when that is rejected.
def Failure.inListener : Failure → Failure
  | .thrown message => .unhandled message
  | failure => failure

def listener (result : Except Failure α) : Except Failure α := result.mapError Failure.inListener

@[simp] theorem listener_ok {result : Except Failure α} : listener result = .ok a ↔ result = .ok a := by
  cases result with
  | ok b => rfl
  | error failure => exact ⟨fun same => (by cases same),fun same => (by cases same)⟩

theorem listener_map (f : α → β) (result : Except Failure α) : listener (result.map f) = (listener result).map f := by
  cases result with
  | ok a => rfl
  | error failure => rfl

structure Entry where
  key : Bytes
  value : Bytes
deriving DecidableEq

structure ReadStreamOptions where
  gte : Bytes
  lte : Bytes
  limit : Option Int

-- The part of @liskhq/lisk-db that is called. A stream is the list of the
-- entries it delivers before its end; one that emits an error is an error.
structure Database where
  get : Bytes → Except Failure Bytes
  createReadStream : ReadStreamOptions → Except Failure (List Entry)

-- What a read stream delivers of a table, by lisk-db's documentation.
def deliver (entries : List Entry) (options : ReadStreamOptions) : List Entry :=
  let range := Paging.within Entry.key options.gte options.lte entries
  match options.limit with
  | none => range
  | some limit => range.take limit.toNat

structure Database.Serves (db : Database) (entries : List Entry) : Prop where
  ascending : entries.Pairwise (fun a b => compare a.key b.key = .lt)
  stream : ∀ options, (∀ limit ∈ options.limit, 1 ≤ limit) → db.createReadStream options = .ok (deliver entries options)

-- codec.decode of @liskhq/lisk-codec, by the schema it is called with.
structure Codec where
  account : Bytes → Except Failure Account
  unregisteredAddresses : Bytes → Except Failure (List UnregisteredAccount)
  voteWeights : Bytes → Except Failure VoteWeightsWrapper
  blockHeader : Bytes → Except Failure BlockHeader
  transaction : Bytes → Except Failure Transaction

-- The packages the migrator calls: the codec and @liskhq/lisk-cryptography.
structure Packages where
  codec : Codec
  hash : Bytes → { digest : Bytes // digest.length = 32 }
  getAddressFromPublicKey : Bytes → Bytes
  getLisk32AddressFromAddress : Bytes → String

def Packages.addressLegacyReserve (packages : Packages) : Bytes := (packages.hash (bufferFrom "legacyReserve")).val.take 20

theorem Packages.reserve_length (packages : Packages) : packages.addressLegacyReserve.length = binaryAddressLength := by
  simp [Packages.addressLegacyReserve,(packages.hash _).property,binaryAddressLength]

-- codec.decode makes every bytes field a Buffer of its own, so the objects of
-- two decoded records never coincide. They are numbered as they are made: the
-- account records first, in their order, then the delegates of the vote weights.
def placeAccounts (accounts : List Account) : List Account :=
  accounts.mapIdx (fun ref account => { account with address := { account.address with ref := ref } })

def placeVoteWeights (next : Nat) (wrapper : VoteWeightsWrapper) : VoteWeightsWrapper :=
  ⟨wrapper.voteWeights.mapIdx (fun i voteWeight => { voteWeight with
    delegates := voteWeight.delegates.mapIdx (fun j delegate =>
      { delegate with address := { delegate.address with ref := next+Nat.pair i j } }) })⟩

theorem placed_ref (accounts : List Account) : ∀ account ∈ placeAccounts accounts, account.address.ref < accounts.length := by
  intro account member
  obtain ⟨i,bound,rfl⟩ := List.mem_mapIdx.mp member
  exact bound

theorem placed_delegate_ref (next : Nat) (wrapper : VoteWeightsWrapper) :
    ∀ voteWeight ∈ (placeVoteWeights next wrapper).voteWeights, ∀ delegate ∈ voteWeight.delegates,
      next ≤ delegate.address.ref := by
  intro voteWeight member delegate inRound
  obtain ⟨i,_,rfl⟩ := List.mem_mapIdx.mp member
  obtain ⟨j,_,rfl⟩ := List.mem_mapIdx.mp inRound
  exact Nat.le_add_right _ _

end LiskMigrator
