import LiskMigrator.Supply

namespace LiskMigrator
open Text Sorting Collections Keyed Outcome

-- What an entry of the user substore locks for the PoS module, and what a
-- staker has placed there or still waits to get back.
def UserSubstoreEntryOf.posLocked (entry : UserSubstoreEntryOf Binary) : Option Nat :=
  readSum ((entry.lockedBalances.filter (fun balance => balance.module = moduleNamePos)).map LockedBalance.amount)

def StakerOf.placed (staker : StakerOf Address) : Nat :=
  (staker.stakes.map Stake.amount).sum+(staker.pendingUnlocks.map PendingUnlock.amount).sum

theorem locked_pos (account : Account) :
    readSum (((getLockedBalances account).filter (fun balance => balance.module = moduleNamePos)).map LockedBalance.amount) =
      some account.staked := by
  rw [getLockedBalances_exact]
  split
  · simp [readSum]
  · rename_i none
    have zero : account.staked = 0 := by omega
    simp [readSum,zero]

section Backing
variable (packages : Packages) (snapshot : Snapshot) (tokenID : String)

theorem stakes_amount (account : Account) : ((getStakes packages account tokenID).map Stake.amount).sum =
    (account.dpos.sentVotes.map SentVote.amount).sum := by
  unfold getStakes
  rw [List.map_map]
  exact ((sortBy_perm (compareOn SentVote.delegateAddress) account.dpos.sentVotes).map SentVote.amount).sum_eq

theorem unlocks_amount (account : Account) :
    ((account.dpos.unlocking.map (pendingUnlock packages)).map PendingUnlock.amount).sum =
      (account.dpos.unlocking.map Unlocking.amount).sum := by
  rw [List.map_map]
  rfl

-- An account without votes and unlocks has no staker entry, but nothing is
-- missing there.
theorem staker_placed (account : Account) :
    (createStakersArrayEntry packages account tokenID).elim 0 StakerOf.placed = account.staked := by
  unfold createStakersArrayEntry
  split
  · rw [Option.elim_some,StakerOf.placed,stakes_amount,unlocks_amount]
    rfl
  · rename_i idle
    obtain ⟨votes,unlocks⟩ : account.dpos.sentVotes = [] ∧ account.dpos.unlocking = [] := by simpa using idle
    simp [Account.staked,votes,unlocks]

theorem staker_address (account : Account) (staker : StakerBuffer)
    (created : createStakersArrayEntry packages account tokenID = some staker) : staker.address = account.address.bytes := by
  unfold createStakersArrayEntry at created
  split at created
  · cases created
    rfl
  · cases created

theorem user_address (account : Account) (entry : UserSubstoreEntryBuffer)
    (created : createUserSubstoreArrayEntry packages account tokenID = some entry) : entry.address = account.address.bytes := by
  unfold createUserSubstoreArrayEntry at created
  split at created
  · cases created
    rfl
  · cases created

namespace Snapshot

def accountAt (address : Bytes) : Option Account := snapshot.migrated.find? (fun account => account.address.bytes = address)

theorem stakers_at (distinct : snapshot.Distinct) (address : Bytes) :
    ((snapshot.stakerRows packages tokenID).find? (fun staker => staker.address = address)).elim 0 StakerOf.placed =
      (snapshot.accountAt address).elim 0 Account.staked := by
  unfold stakerRows accountAt
  rw [find_filterMap (snapshot.migrated_distinct distinct) (staker_address packages tokenID)]
  cases snapshot.migrated.find? (fun account => account.address.bytes = address) with
  | none => rfl
  | some account => exact staker_placed packages tokenID account

theorem users_at (distinct : snapshot.Distinct) (address : Bytes) :
    ((snapshot.userSubstoreRows packages tokenID).find? (fun entry => entry.address = address)).elim (some 0)
        UserSubstoreEntryOf.posLocked = some ((snapshot.accountAt address).elim 0 Account.staked) := by
  unfold userSubstoreRows
  rw [List.find?_append,find_filterMap (snapshot.migrated_distinct distinct) (user_address packages tokenID)]
  unfold accountAt
  by_cases reserve : address = packages.addressLegacyReserve
  · subst reserve
    have skipped : (snapshot.migrated.find? (fun account => account.address.bytes = packages.addressLegacyReserve)).bind
        (fun account => createUserSubstoreArrayEntry packages account tokenID) = none := by
      cases found : snapshot.migrated.find? (fun account => account.address.bytes = packages.addressLegacyReserve) with
      | none => rfl
      | some account =>
        have same := ((find_exact (snapshot.migrated_distinct distinct)).mp found).2
        simp [createUserSubstoreArrayEntry,same]
    have found : [createLegacyReserveAccount packages (snapshot.reserve packages) (snapshot.legacyAmount packages)
        tokenID].find? (fun entry => entry.address = packages.addressLegacyReserve) =
        some (createLegacyReserveAccount packages (snapshot.reserve packages) (snapshot.legacyAmount packages) tokenID) := by
      rw [List.find?_cons]
      simp [createLegacyReserveAccount]
    rw [skipped,found,Option.none_or,Option.elim_some,UserSubstoreEntryOf.posLocked,reserve_locks]
    unfold reserve
    cases snapshot.migrated.find? (fun account => account.address.bytes = packages.addressLegacyReserve) with
    | none => rfl
    | some account => exact locked_pos account
  · have other : ([createLegacyReserveAccount packages (snapshot.reserve packages) (snapshot.legacyAmount packages)
        tokenID].find? (fun entry => entry.address = address)) = none := by
      simpa [createLegacyReserveAccount] using fun same => reserve same.symm
    rw [other,Option.or_none]
    cases found : snapshot.migrated.find? (fun account => account.address.bytes = address) with
    | none => rfl
    | some account =>
      have same := ((find_exact (snapshot.migrated_distinct distinct)).mp found).2
      have created : createUserSubstoreArrayEntry packages account tokenID = some (userSubstoreRow tokenID account) := by
        unfold createUserSubstoreArrayEntry
        rw [if_pos (fun equal => reserve (same.symm.trans equal.symm))]
        rfl
      rw [Option.bind_some,created]
      exact locked_pos account

end Snapshot
end Backing

section Assets
variable {packages : Packages} {snapshot : Snapshot} {snapshotHeight : Int} {tokenID : String}

theorem stakes_backed (twenty : Twenty packages.getLisk32AddressFromAddress) (distinct : snapshot.Distinct)
    (read : readSnapshot packages db = .ok snapshot)
    (ran : outcome (CreateAsset.init packages rounds db snapshotHeight tokenID pageSize process) = .ok assets)
    (address : Bytes) (length : address.length = binaryAddressLength) :
    ((stored GenesisData.userSubstore assets).find? (fun entry =>
        entry.address = packages.getLisk32AddressFromAddress address)).elim (some 0) UserSubstoreEntryOf.posLocked =
      some (((stored GenesisData.stakers assets).find? (fun staker =>
        staker.address = packages.getLisk32AddressFromAddress address)).elim 0 StakerOf.placed) := by
  obtain ⟨_,users,stakers,_⟩ := supply_emitted read ran
  have user : (snapshot.userSubstore packages tokenID).find? (fun entry =>
      entry.address = packages.getLisk32AddressFromAddress address) =
      ((snapshot.userSubstoreRows packages tokenID).find? (fun entry => entry.address = address)).map
        (userSubstoreEntry packages) := by
    apply sorted_find (snapshot.userSubstore_distinct packages tokenID distinct) (userSubstoreEntry_address packages)
    intro row member same
    exact twenty (snapshot.userSubstoreRows_length packages tokenID row member) length same
  have staker : (snapshot.stakers packages tokenID).find? (fun staker =>
      staker.address = packages.getLisk32AddressFromAddress address) =
      ((snapshot.stakerRows packages tokenID).find? (fun staker => staker.address = address)).map (stakerEntry packages) := by
    apply sorted_find (snapshot.stakers_distinct packages tokenID distinct) (stakerEntry_address packages)
    intro row member same
    exact twenty (snapshot.stakerRows_length packages tokenID row member) length same
  have locked := snapshot.users_at packages tokenID distinct address
  have placed := snapshot.stakers_at packages tokenID distinct address
  rw [users,stakers,user,staker,Option.elim_map,Option.elim_map]
  exact locked.trans (congrArg some placed.symm)

theorem stakes_backed_sample : ((stored GenesisData.userSubstore Sample.assets).find? (fun entry =>
      entry.address = Sample.packages.getLisk32AddressFromAddress Sample.delegateAddress)).elim (some 0)
        UserSubstoreEntryOf.posLocked =
    some (((stored GenesisData.stakers Sample.assets).find? (fun staker =>
      staker.address = Sample.packages.getLisk32AddressFromAddress Sample.delegateAddress)).elim 0 StakerOf.placed) :=
  stakes_backed Sample.lisk32_injective.injOn Sample.distinct Sample.read Sample.ran Sample.delegateAddress rfl

end Assets
end LiskMigrator
