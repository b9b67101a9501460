import LiskMigrator.Stores

namespace LiskMigrator
open Text Sorting Collections Keyed Outcome

def UserSubstoreEntryOf.amounts (entry : UserSubstoreEntryOf Binary) : List String :=
  entry.availableBalance :: entry.lockedBalances.map LockedBalance.amount

section Rows
variable (packages : Packages) (snapshot : Snapshot) (tokenID : String)

theorem row_amounts (account : Account) : readSum (userSubstoreRow tokenID account).amounts = some account.holding := by
  unfold UserSubstoreEntryOf.amounts userSubstoreRow Account.holding
  rw [readSum_cons,readDecimal_decimal,getLockedBalances_exact]
  split
  · simp [readSum]
  · rename_i none
    have zero : account.staked = 0 := by omega
    simp [readSum,zero]

-- The lock of the legacy module sorts before that of the PoS module.
theorem reserve_locks (reserve : Option Account) (amount : Nat) :
    (createLegacyReserveAccount packages reserve amount tokenID).lockedBalances =
      ⟨moduleNameLegacy,decimal amount⟩ :: reserve.elim [] getLockedBalances := by
  unfold createLegacyReserveAccount
  cases reserve with
  | none => rfl
  | some account =>
    simp only [Option.elim_some,getLockedBalances_exact]
    split
    · simp +decide [sortBy,Before]
    · rfl

namespace Snapshot

def reserveHolding : Nat := (snapshot.reserve packages).elim 0 Account.holding

theorem reserve_amounts : readSum (snapshot.reserveRow packages tokenID).amounts =
    some (snapshot.legacyAmount packages+snapshot.reserveHolding packages) := by
  have available : (snapshot.reserveRow packages tokenID).availableBalance =
      decimal ((snapshot.reserve packages).elim 0 (fun account => account.token.balance)) := rfl
  unfold UserSubstoreEntryOf.amounts
  rw [available,reserveRow,reserve_locks,readSum_cons,readDecimal_decimal,List.map_cons,readSum_cons,readDecimal_decimal]
  unfold reserveHolding
  cases snapshot.reserve packages with
  | none => simp [readSum]
  | some account =>
    have row := row_amounts tokenID account
    simp only [UserSubstoreEntryOf.amounts,userSubstoreRow,readSum_cons,readDecimal_decimal,Option.bind_some] at row
    cases locked : readSum ((getLockedBalances account).map LockedBalance.amount) with
    | none => simp [locked] at row
    | some staked =>
      simp only [locked,Option.map_some,Option.some.injEq] at row
      simp only [Option.elim_some,locked,Option.bind_some,Option.map_some,← row]
      exact congrArg some (Nat.add_left_comm _ _ _)

theorem held_split (distinct : snapshot.Distinct) :
    snapshot.held = ((snapshot.ordinary packages).map Account.holding).sum+snapshot.reserveHolding packages :=
  sum_split (snapshot.migrated_distinct distinct) Account.holding packages.addressLegacyReserve

theorem userSubstore_amounts (distinct : snapshot.Distinct) :
    readSum ((snapshot.userSubstore packages tokenID).flatMap UserSubstoreEntryOf.amounts) =
      some (snapshot.totalSupply packages 0) := by
  have weighed : ∀ row ∈ snapshot.userSubstoreRows packages tokenID,
      readSum row.amounts = some ((readSum row.amounts).getD 0) := by
    intro row member
    rw [userSubstoreRows_exact] at member
    rcases List.mem_append.mp member with ordinary | reserve
    · obtain ⟨account,_,rfl⟩ := List.mem_map.mp ordinary
      rw [row_amounts]
      rfl
    · cases List.mem_singleton.mp reserve
      rw [reserve_amounts]
      rfl
  unfold userSubstore
  rw [List.flatMap_map]
  refine (readSum_flatMap (fun row member => weighed row (mem_sortBy.mp member))).trans (congrArg some ?_)
  rw [((sortBy_perm userSubstoreComparator _).map _).sum_eq,userSubstoreRows_exact,List.map_append,List.sum_append,List.map_map]
  simp only [Function.comp_def,row_amounts,Option.getD_some,List.map_cons,List.map_nil,List.sum_singleton,reserve_amounts]
  rw [totalSupply,held_split packages snapshot distinct,Nat.zero_add,Nat.add_assoc,Nat.add_comm (snapshot.reserveHolding packages)]

end Snapshot
end Rows

section Assets
variable {packages : Packages} {snapshot : Snapshot} {snapshotHeight : Int} {tokenID : String}

theorem legacy_amounts (accounts : List UnregisteredAccount) :
    readSum ((sortedLegacyAccounts accounts).map LegacyStoreEntryOf.balance) =
      some (accounts.map UnregisteredAccount.balance).sum := by
  have sorted : sortBy (compareOn LegacyStoreEntryOf.address) (accounts.map legacyAccount) =
      (sortBy (compareOn UnregisteredAccount.address) accounts).map legacyAccount :=
    (sortBy_map legacyAccount (fun _ _ => rfl) accounts).symm
  have texts : (sortedLegacyAccounts accounts).map LegacyStoreEntryOf.balance =
      ((sortBy (compareOn UnregisteredAccount.address) accounts).map UnregisteredAccount.balance).map decimal := by
    unfold sortedLegacyAccounts
    rw [sorted,List.map_map,List.map_map,List.map_map]
    rfl
  rw [texts,readSum_decimals,((sortBy_perm (compareOn UnregisteredAccount.address) accounts).map _).sum_eq]

theorem supply_emitted (read : readSnapshot packages db = .ok snapshot)
    (ran : outcome (CreateAsset.init packages rounds db snapshotHeight tokenID pageSize process) = .ok assets) :
    stored GenesisData.supplySubstore assets = [⟨tokenID,decimal (snapshot.totalSupply packages process.totalLSKSupply)⟩] ∧
    stored GenesisData.userSubstore assets = snapshot.userSubstore packages tokenID ∧
    stored GenesisData.stakers assets = snapshot.stakers packages tokenID ∧
    stored GenesisData.legacyAccounts assets = sortedLegacyAccounts snapshot.unregisteredAddresses := by
  obtain ⟨validatorKeys,genesisData,_,_,rfl⟩ := init_emits _ _ _ _ _ _ ran read
  simp [GenesisData.supplySubstore,GenesisData.userSubstore,GenesisData.stakers,GenesisData.legacyAccounts,
    getInteropModuleEntry]

-- The balance of the reserve account is added with the other accounts and once
-- more as the start of the legacy amount.
theorem totalSupply_conserved_iff (read : readSnapshot packages db = .ok snapshot)
    (ran : outcome (CreateAsset.init packages rounds db snapshotHeight tokenID pageSize .fresh) = .ok assets) :
    (∃ supply, stored GenesisData.supplySubstore assets = [supply] ∧
      readDecimal supply.totalSupply = some snapshot.v3Supply) ↔ snapshot.reserveBalance packages = 0 := by
  have emitted := (supply_emitted read ran).1
  have counted : snapshot.totalSupply packages Process.fresh.totalLSKSupply =
      snapshot.v3Supply+snapshot.reserveBalance packages := by
    have fresh : Process.fresh.totalLSKSupply = 0 := rfl
    unfold Snapshot.totalSupply Snapshot.legacyAmount Snapshot.v3Supply
    omega
  rw [emitted,counted]
  constructor
  · rintro ⟨supply,same,conserved⟩
    cases List.singleton_inj.mp same
    rw [readDecimal_decimal,Option.some.injEq] at conserved
    omega
  · intro none
    refine ⟨_,rfl,?_⟩
    rw [readDecimal_decimal,none,Nat.add_zero]

theorem totalSupply_conserved_sample : (∃ supply, stored GenesisData.supplySubstore Sample.assets = [supply] ∧
    readDecimal supply.totalSupply = some Sample.snapshot.v3Supply) ↔ Sample.snapshot.reserveBalance Sample.packages = 0 :=
  totalSupply_conserved_iff Sample.read Sample.ran

theorem reserve_counted_twice : Sample.snapshot.Distinct ∧ readSnapshot Sample.packages Sample.database = .ok Sample.snapshot ∧
    outcome (Sample.run Sample.database .fresh) = .ok Sample.assets ∧ Sample.snapshot.v3Supply = 61 ∧
    (stored GenesisData.supplySubstore Sample.assets).map (fun supply => readDecimal supply.totalSupply) = [some 66] :=
  ⟨Sample.distinct,Sample.read,Sample.ran,by decide +kernel,by decide +kernel⟩

theorem token_balanced (distinct : snapshot.Distinct) (read : readSnapshot packages db = .ok snapshot)
    (ran : outcome (CreateAsset.init packages rounds db snapshotHeight tokenID pageSize .fresh) = .ok assets) :
    ∃ supply total, stored GenesisData.supplySubstore assets = [supply] ∧ readDecimal supply.totalSupply = some total ∧
      readSum ((stored GenesisData.userSubstore assets).flatMap UserSubstoreEntryOf.amounts) = some total := by
  obtain ⟨supplied,users,_⟩ := supply_emitted read ran
  refine ⟨_,snapshot.totalSupply packages 0,supplied,readDecimal_decimal _,?_⟩
  rw [users]
  exact snapshot.userSubstore_amounts packages tokenID distinct

theorem token_balanced_sample : ∃ supply total, stored GenesisData.supplySubstore Sample.assets = [supply] ∧
    readDecimal supply.totalSupply = some total ∧
    readSum ((stored GenesisData.userSubstore Sample.assets).flatMap UserSubstoreEntryOf.amounts) = some total :=
  token_balanced Sample.distinct Sample.read Sample.ran

-- What the legacy module and the reserve's entry of the token module have to
-- say of each other.
def ReserveAgrees (packages : Packages) (snapshot : Snapshot) (assets : List GenesisAssetEntry) : Prop :=
  ∃ entry lock,
    (stored GenesisData.userSubstore assets).filter (fun entry =>
      entry.address = packages.getLisk32AddressFromAddress packages.addressLegacyReserve) = [entry] ∧
    readDecimal entry.availableBalance = some (snapshot.reserveBalance packages) ∧
    entry.lockedBalances.filter (fun balance => balance.module = moduleNameLegacy) = [lock] ∧
    readDecimal lock.amount = readSum ((stored GenesisData.legacyAccounts assets).map LegacyStoreEntryOf.balance)

theorem reserve_entry (twenty : Twenty packages.getLisk32AddressFromAddress) (distinct : snapshot.Distinct) :
    (snapshot.userSubstore packages tokenID).filter (fun entry =>
      entry.address = packages.getLisk32AddressFromAddress packages.addressLegacyReserve) =
    [userSubstoreEntry packages (snapshot.reserveRow packages tokenID)] := by
  have keys := snapshot.userSubstore_distinct packages tokenID distinct
  have present : snapshot.reserveRow packages tokenID ∈ snapshot.userSubstoreRows packages tokenID := by
    rw [Snapshot.userSubstoreRows_exact]
    exact List.mem_append_right _ List.mem_cons_self
  have sorted := sortBy_perm userSubstoreComparator (snapshot.userSubstoreRows packages tokenID)
  have single := filter_single ((sorted.map _).nodup_iff.mpr keys) (sorted.mem_iff.mpr present) rfl
  refine (filter_renamed UserSubstoreEntryOf.address (userSubstoreEntry packages) UserSubstoreEntryOf.address
    packages.getLisk32AddressFromAddress (fun _ _ => rfl) ?_).trans (congrArg (List.map (userSubstoreEntry packages)) single)
  intro row member same
  refine twenty ?_ packages.reserve_length same
  exact snapshot.userSubstoreRows_length packages tokenID row (sorted.mem_iff.mp member)

theorem legacy_lock (packages : Packages) (tokenID : String) (reserve : Option Account) (amount : Nat) :
    (createLegacyReserveAccount packages reserve amount tokenID).lockedBalances.filter
      (fun balance => balance.module = moduleNameLegacy) = [⟨moduleNameLegacy,decimal amount⟩] := by
  rw [reserve_locks]
  cases reserve with
  | none => rfl
  | some account =>
    rw [Option.elim_some,getLockedBalances_exact]
    split
    · simp +decide
    · rfl

theorem reserve_agrees_iff (twenty : Twenty packages.getLisk32AddressFromAddress) (distinct : snapshot.Distinct)
    (read : readSnapshot packages db = .ok snapshot)
    (ran : outcome (CreateAsset.init packages rounds db snapshotHeight tokenID pageSize process) = .ok assets) :
    ReserveAgrees packages snapshot assets ↔ snapshot.reserveBalance packages = 0 := by
  obtain ⟨_,users,_,legacy⟩ := supply_emitted read ran
  have locked : ReserveAgrees packages snapshot assets ↔
      some (snapshot.legacyAmount packages) = some snapshot.unregistered := by
    unfold ReserveAgrees
    rw [users,legacy,reserve_entry twenty distinct,legacy_amounts]
    constructor
    · rintro ⟨entry,lock,entries,_,locks,agreed⟩
      cases List.singleton_inj.mp entries
      have single := locks.symm.trans (legacy_lock packages tokenID (snapshot.reserve packages) (snapshot.legacyAmount packages))
      cases List.singleton_inj.mp single
      rwa [readDecimal_decimal] at agreed
    · intro agreed
      refine ⟨_,_,rfl,readDecimal_decimal _,legacy_lock packages tokenID _ _,?_⟩
      rwa [readDecimal_decimal]
  rw [locked,Option.some.injEq]
  unfold Snapshot.legacyAmount
  omega

theorem reserve_agrees_sample : ReserveAgrees Sample.packages Sample.snapshot Sample.assets ↔
    Sample.snapshot.reserveBalance Sample.packages = 0 :=
  reserve_agrees_iff Sample.lisk32_injective.injOn Sample.distinct Sample.read Sample.ran

theorem reserve_disagrees : Sample.snapshot.Distinct ∧ readSnapshot Sample.packages Sample.database = .ok Sample.snapshot ∧
    outcome (Sample.run Sample.database .fresh) = .ok Sample.assets ∧
    ¬ ReserveAgrees Sample.packages Sample.snapshot Sample.assets := by
  refine ⟨Sample.distinct,Sample.read,Sample.ran,?_⟩
  rintro ⟨entry,lock,entries,_,locks,agreed⟩
  have locked : ((stored GenesisData.userSubstore Sample.assets).filter (fun entry =>
      entry.address = Sample.packages.getLisk32AddressFromAddress Sample.packages.addressLegacyReserve)).map (fun entry =>
        (entry.lockedBalances.filter (fun balance => balance.module = moduleNameLegacy)).map (fun lock =>
          readDecimal lock.amount)) = [[some 20]] := by decide +kernel
  have legacy : readSum ((stored GenesisData.legacyAccounts Sample.assets).map LegacyStoreEntryOf.balance) = some 15 := by
    decide +kernel
  rw [entries,List.map_singleton,locks,List.map_singleton,agreed,legacy] at locked
  exact absurd locked (by decide)

end Assets
end LiskMigrator
