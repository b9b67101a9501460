import LiskMigrator.Supply

namespace LiskMigrator
open Text Sorting Collections Outcome

-- Each module locks once, in the order of the names, and something.
structure WellLocked (lockedBalances : List LockedBalance) : Prop where
  ascending : Ascending (compareOn LockedBalance.module) lockedBalances
  positive : ∀ balance ∈ lockedBalances, ∃ amount, readDecimal balance.amount = some amount ∧ 0 < amount

theorem wellLocked_distinct (locked : WellLocked lockedBalances) : (lockedBalances.map LockedBalance.module).Nodup := by
  have names : Ascending compare (lockedBalances.map LockedBalance.module) := List.pairwise_map.mpr locked.ascending
  exact names.nodup

theorem wellLocked_nil : WellLocked [] := ⟨.nil,fun _ member => absurd member List.not_mem_nil⟩

theorem wellLocked_decimal (module : String) (amount : Nat) : WellLocked [⟨module,decimal amount⟩] ↔ 0 < amount := by
  constructor
  · intro locked
    obtain ⟨read,same,positive⟩ := locked.positive _ List.mem_cons_self
    rw [readDecimal_decimal] at same
    cases same
    exact positive
  · intro positive
    refine ⟨List.pairwise_singleton _ _,?_⟩
    intro balance member
    cases List.mem_singleton.mp member
    exact ⟨amount,readDecimal_decimal amount,positive⟩

theorem wellLocked_cons : WellLocked (balance :: later) ↔ WellLocked [balance] ∧ WellLocked later ∧
    ∀ other ∈ later, compareOn LockedBalance.module balance other = .lt := by
  constructor
  · intro locked
    obtain ⟨before,ascending⟩ := List.pairwise_cons.mp locked.ascending
    refine ⟨⟨List.pairwise_singleton _ _,?_⟩,⟨ascending,?_⟩,before⟩
    · intro other member
      exact locked.positive other (List.mem_singleton.mp member ▸ List.mem_cons_self)
    · exact fun other member => locked.positive other (List.mem_cons_of_mem balance member)
  · intro parts
    obtain ⟨first,rest,before⟩ := parts
    refine ⟨List.pairwise_cons.mpr ⟨before,rest.ascending⟩,?_⟩
    intro other member
    rcases List.mem_cons.mp member with rfl | later
    · exact first.positive other List.mem_cons_self
    · exact rest.positive other later

-- What an account locks for its votes is left out if it is nothing.
theorem getLockedBalances_well (account : Account) : WellLocked (getLockedBalances account) := by
  rw [getLockedBalances_exact]
  split
  · rename_i staked
    exact (wellLocked_decimal moduleNamePos account.staked).mpr staked
  · exact wellLocked_nil

section Reserve
variable (packages : Packages) (tokenID : String)

theorem createUserSubstoreArrayEntry_well (created : createUserSubstoreArrayEntry packages account tokenID = some entry) :
    WellLocked entry.lockedBalances := by
  unfold createUserSubstoreArrayEntry at created
  split at created
  · cases created
    exact getLockedBalances_well account
  · cases created

-- The lock of the legacy module is written whatever its amount.
theorem createLegacyReserveAccount_well_iff (legacyReserveAccount : Option Account) (legacyReserveAmount : Nat) :
    WellLocked (createLegacyReserveAccount packages legacyReserveAccount legacyReserveAmount tokenID).lockedBalances ↔
      0 < legacyReserveAmount := by
  have own : WellLocked (legacyReserveAccount.elim [] getLockedBalances) := by
    cases legacyReserveAccount with
    | none => exact wellLocked_nil
    | some account => exact getLockedBalances_well account
  have before : ∀ other ∈ legacyReserveAccount.elim [] getLockedBalances,
      compareOn LockedBalance.module ⟨moduleNameLegacy,decimal legacyReserveAmount⟩ other = .lt := by
    intro other member
    cases legacyReserveAccount with
    | none => cases member
    | some account =>
      rw [Option.elim_some,getLockedBalances_exact] at member
      split at member
      · cases List.mem_singleton.mp member
        exact (by decide : compare moduleNameLegacy moduleNamePos = .lt)
      · cases member
  rw [reserve_locks,wellLocked_cons,wellLocked_decimal]
  exact and_iff_left ⟨own,before⟩

end Reserve
section Assets
variable {packages : Packages} {snapshot : Snapshot} {snapshotHeight : Int} {tokenID : String}

theorem userSubstore_well_iff (packages : Packages) (snapshot : Snapshot) (tokenID : String) :
    (∀ entry ∈ snapshot.userSubstore packages tokenID, WellLocked entry.lockedBalances) ↔ 0 < snapshot.legacyAmount packages := by
  have written (entry : UserSubstoreEntryBuffer) : (userSubstoreEntry packages entry).lockedBalances = entry.lockedBalances := rfl
  unfold Snapshot.userSubstore Snapshot.userSubstoreRows
  simp only [List.forall_mem_map,mem_sortBy,written,List.forall_mem_append,List.forall_mem_singleton,
    createLegacyReserveAccount_well_iff]
  refine and_iff_right ?_
  intro entry member
  obtain ⟨account,_,created⟩ := List.mem_filterMap.mp member
  exact createUserSubstoreArrayEntry_well packages tokenID created

theorem locked_balances_iff (read : readSnapshot packages db = .ok snapshot)
    (ran : outcome (CreateAsset.init packages rounds db snapshotHeight tokenID pageSize process) = .ok assets) :
    (∀ entry ∈ stored GenesisData.userSubstore assets,
      WellLocked entry.lockedBalances ∧ (entry.lockedBalances.map LockedBalance.module).Nodup) ↔
    0 < snapshot.reserveBalance packages+snapshot.unregistered := by
  have emitted := (supply_emitted read ran).2.1
  have well := userSubstore_well_iff packages snapshot tokenID
  rw [emitted]
  constructor
  · intro all
    exact well.mp (fun entry member => (all entry member).1)
  · intro positive entry member
    have locked := well.mpr positive entry member
    exact ⟨locked,wellLocked_distinct locked⟩

theorem locked_balances_sample : (∀ entry ∈ stored GenesisData.userSubstore Sample.assets,
      WellLocked entry.lockedBalances ∧ (entry.lockedBalances.map LockedBalance.module).Nodup) ↔
    0 < Sample.snapshot.reserveBalance Sample.packages+Sample.snapshot.unregistered :=
  locked_balances_iff Sample.read Sample.ran

end Assets
namespace Sample

-- A chain without unregistered addresses and without an account at the reserve address.
def settledTable : List Entry := entries [delegateAccount,voterAccount] firstHeader secondHeader [] voteWeights

def settledAssets : List GenesisAssetEntry :=
  Snapshot.emitted packages ⟨placeAccounts [delegateAccount,voterAccount],[]⟩ validatorKeys 300 tokenID 0
    ⟨posInitRounds,[delegateAddress,voterAddress].map packages.getLisk32AddressFromAddress⟩

end Sample

theorem zero_locked : outcome (Sample.run (.ofEntries Sample.settledTable) .fresh) = .ok Sample.settledAssets ∧
    ∃ entry ∈ stored GenesisData.userSubstore Sample.settledAssets, entry.lockedBalances = [⟨moduleNameLegacy,"0"⟩] ∧
      ¬ WellLocked entry.lockedBalances := by
  refine ⟨by decide +kernel,?_⟩
  have first : (stored GenesisData.userSubstore Sample.settledAssets)[0]? =
      some ⟨"lskz5kn2akhood3cgpaf6a95ra85xfa9fhokvx4du",Sample.tokenID,"0",[⟨moduleNameLegacy,decimal 0⟩]⟩ := by decide +kernel
  exact ⟨_,List.mem_of_getElem? first,rfl,fun locked => absurd ((wellLocked_decimal moduleNameLegacy 0).mp locked) (by decide)⟩

end LiskMigrator
