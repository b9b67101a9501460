import LiskMigrator.CreateAsset

namespace LiskMigrator
open Text Sorting Collections Outcome

-- What a v3 snapshot holds, in its own terms: the records of the account scan
-- and the balances of the addresses that were never registered.
structure Snapshot where
  accounts : List Account
  unregisteredAddresses : List UnregisteredAccount
deriving DecidableEq

def readSnapshot (packages : Packages) (db : Database) : Except Failure Snapshot := do
  let encoded ← db.get (chainStateKey chainStateUnregisteredAddresses)
  let accounts ← readAccounts packages db
  let unregisteredAddresses ← packages.codec.unregisteredAddresses encoded
  return ⟨accounts,unregisteredAddresses⟩

def Account.staked (account : Account) : Nat :=
  (account.dpos.sentVotes.map SentVote.amount).sum+(account.dpos.unlocking.map Unlocking.amount).sum

def Account.holding (account : Account) : Nat := account.token.balance+account.staked

namespace Snapshot
variable (packages : Packages) (snapshot : Snapshot)

-- The accounts with an address of twenty bytes, which are the ones to migrate.
def migrated : List Account := snapshot.accounts.filter (fun acc => acc.address.bytes.length = binaryAddressLength)

def held : Nat := (snapshot.migrated.map Account.holding).sum

def unregistered : Nat := (snapshot.unregisteredAddresses.map UnregisteredAccount.balance).sum

def v3Supply : Nat := snapshot.held+snapshot.unregistered

def reserve : Option Account := snapshot.migrated.find? (fun account => account.address.bytes = packages.addressLegacyReserve)

def reserveBalance : Nat := (snapshot.reserve packages).elim 0 (fun account => account.token.balance)

def Distinct : Prop := (snapshot.accounts.map (fun account => account.address.bytes)).Nodup

theorem migrated_distinct (distinct : snapshot.Distinct) :
    (snapshot.migrated.map (fun account => account.address.bytes)).Nodup :=
  distinct.sublist (List.filter_sublist.map _)

theorem migrated_length : ∀ account ∈ snapshot.migrated, account.address.bytes.length = binaryAddressLength := by
  intro account member
  simpa using (List.mem_filter.mp member).2

end Snapshot

theorem locked_amount (account : Account) :
    account.dpos.unlocking.foldl (fun amount unlockingObj => amount+unlockingObj.amount)
      (account.dpos.sentVotes.foldl (fun amount vote => amount+vote.amount) 0) = account.staked := by
  have added : ∀ (α : Type) (items : List α) (amount : α → Nat) (start : Nat),
      items.foldl (fun total item => total+amount item) start = start+(items.map amount).sum := by
    intro α items amount start
    induction items generalizing start with
    | nil => rfl
    | cons item rest ih => rw [List.foldl_cons,ih,List.map_cons,List.sum_cons,Nat.add_assoc]
  rw [added Unlocking,added SentVote,Nat.zero_add]
  rfl

theorem getLockedBalances_exact (account : Account) : getLockedBalances account =
    if account.staked > 0 then [⟨moduleNamePos,decimal account.staked⟩] else [] := by
  simp only [getLockedBalances,locked_amount]

end LiskMigrator
