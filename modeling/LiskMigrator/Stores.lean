import LiskMigrator.Tables
import LiskMigrator.Library.Keyed

namespace LiskMigrator
open Text Sorting Collections Keyed Outcome

-- Every row of the user substore has the one token ID, so its comparator only
-- ever decides by the addresses.
theorem userSubstoreComparator_lex (a b : UserSubstoreEntryBuffer) : userSubstoreComparator a b =
    compareLex (compareOn UserSubstoreEntryOf.address) (compareOn UserSubstoreEntryOf.tokenID) a b := by
  unfold userSubstoreComparator compareLex compareOn
  by_cases same : a.address = b.address
  · rw [if_pos same,same,Std.ReflOrd.compare_self]
    rfl
  · rw [if_neg same]
    cases compared : compare a.address b.address with
    | lt | gt => rfl
    | eq => exact absurd (Std.LawfulEqOrd.eq_of_compare compared) same

instance : Std.TransCmp userSubstoreComparator := by
  have lex : userSubstoreComparator =
      compareLex (compareOn UserSubstoreEntryOf.address) (compareOn UserSubstoreEntryOf.tokenID) := by
    funext a b
    exact userSubstoreComparator_lex a b
  rw [lex]
  infer_instance

theorem userSubstoreComparator_decides : Decides userSubstoreComparator UserSubstoreEntryOf.address := by
  intro a b different
  unfold userSubstoreComparator
  rw [if_neg different]

section Written
variable (packages : Packages)

theorem userSubstoreEntry_address (row : UserSubstoreEntryBuffer) :
    (userSubstoreEntry packages row).address = packages.getLisk32AddressFromAddress row.address := rfl

theorem validatorEntry_address (row : ValidatorEntryBuffer) :
    (validatorEntry packages row).address = packages.getLisk32AddressFromAddress row.address := rfl

theorem stakerEntry_address (row : StakerBuffer) :
    (stakerEntry packages row).address = packages.getLisk32AddressFromAddress row.address := rfl

theorem authStoreEntry_address (row : AuthStoreEntryBuffer) :
    (authStoreEntry packages row).address = packages.getLisk32AddressFromAddress row.address := rfl

end Written

section Rows
variable (packages : Packages) (snapshot : Snapshot) (validatorKeys : Record String String) (snapshotHeight : Int)
  (tokenID : String)

def userSubstoreRow (account : Account) : UserSubstoreEntryBuffer :=
  ⟨account.address.bytes,fromHex tokenID,decimal account.token.balance,getLockedBalances account⟩

namespace Snapshot

def ordinary : List Account := snapshot.migrated.filter (fun account => account.address.bytes ≠ packages.addressLegacyReserve)

def reserveRow : UserSubstoreEntryBuffer :=
  createLegacyReserveAccount packages (snapshot.reserve packages) (snapshot.legacyAmount packages) tokenID

theorem userSubstoreRows_exact : snapshot.userSubstoreRows packages tokenID =
    (snapshot.ordinary packages).map (userSubstoreRow tokenID) ++ [snapshot.reserveRow packages tokenID] := by
  unfold userSubstoreRows ordinary
  rw [filterMap_kept (fun account => account.address.bytes ≠ packages.addressLegacyReserve)]
  · rfl
  · intro account
    simp only [createUserSubstoreArrayEntry,userSubstoreRow,ne_comm]

theorem userSubstore_addresses : (snapshot.userSubstoreRows packages tokenID).map UserSubstoreEntryOf.address =
    (snapshot.ordinary packages).map (fun account => account.address.bytes) ++ [packages.addressLegacyReserve] := by
  rw [userSubstoreRows_exact,List.map_append,List.map_map]
  rfl

theorem validator_addresses : (snapshot.validatorRows validatorKeys snapshotHeight tokenID).map ValidatorEntryOf.address =
    (snapshot.migrated.filter (fun account => account.dpos.delegate.username ≠ "")).map
      (fun account => account.address.bytes) := by
  unfold validatorRows
  rw [List.map_filterMap]
  refine filterMap_kept (fun account : Account => account.dpos.delegate.username ≠ "") ?_ _
  intro account
  unfold createValidatorsArrayEntry emptyString
  split <;> rfl

theorem staker_addresses : (snapshot.stakerRows packages tokenID).map StakerOf.address =
    (snapshot.migrated.filter (fun account => account.dpos.sentVotes.length ≠ 0 ∨ account.dpos.unlocking.length ≠ 0)).map
      (fun account => account.address.bytes) := by
  unfold stakerRows
  rw [List.map_filterMap]
  refine filterMap_kept (fun account : Account => account.dpos.sentVotes.length ≠ 0 ∨ account.dpos.unlocking.length ≠ 0) ?_ _
  intro account
  unfold createStakersArrayEntry
  split <;> rfl

theorem auth_addresses : snapshot.authRows.map AuthStoreEntryOf.address =
    snapshot.migrated.map (fun account => account.address.bytes) := by
  unfold authRows
  rw [List.map_map]
  rfl

theorem userSubstore_distinct (distinct : snapshot.Distinct) :
    ((snapshot.userSubstoreRows packages tokenID).map UserSubstoreEntryOf.address).Nodup := by
  rw [userSubstore_addresses]
  refine List.nodup_append.mpr ⟨distinct_filter (snapshot.migrated_distinct distinct) _,List.nodup_singleton _,?_⟩
  rintro address member _ single rfl
  cases List.mem_singleton.mp single
  obtain ⟨account,kept,same⟩ := List.mem_map.mp member
  exact of_decide_eq_true (List.mem_filter.mp kept).2 same

theorem stakers_distinct (distinct : snapshot.Distinct) :
    ((snapshot.stakerRows packages tokenID).map StakerOf.address).Nodup := by
  rw [staker_addresses]
  exact distinct_filter (snapshot.migrated_distinct distinct) _

theorem stakerRows_length : ∀ row ∈ snapshot.stakerRows packages tokenID, row.address.length = binaryAddressLength := by
  intro row member
  have inAddresses := @List.mem_map_of_mem _ _ _ _ StakerOf.address member
  rw [staker_addresses] at inAddresses
  obtain ⟨account,kept,same⟩ := List.mem_map.mp inAddresses
  rw [← same]
  exact snapshot.migrated_length account (List.mem_filter.mp kept).1

theorem userSubstoreRows_length : ∀ row ∈ snapshot.userSubstoreRows packages tokenID,
    row.address.length = binaryAddressLength := by
  intro row member
  rw [userSubstoreRows_exact] at member
  rcases List.mem_append.mp member with ordinary | reserve
  · obtain ⟨account,kept,rfl⟩ := List.mem_map.mp ordinary
    exact snapshot.migrated_length account (List.mem_filter.mp kept).1
  · cases List.mem_singleton.mp reserve
    exact packages.reserve_length

end Snapshot
end Rows

-- The names of exactly the wanted addresses, each once, in the strict order of
-- the addresses themselves.
structure Names (name : Bytes → String) (names : List String) (wanted : Bytes → Prop) : Prop where
  ordered : ∃ order, Ascending compare order ∧ names = order.map name ∧ ∀ address, address ∈ order ↔ wanted address
  once : names.Nodup

theorem Names.wanted (names : Names name texts one) (same : ∀ address, one address ↔ two address) : Names name texts two := by
  obtain ⟨⟨order,ascending,written,members⟩,once⟩ := names
  exact ⟨⟨order,ascending,written,fun address => (members address).trans (same address)⟩,once⟩

section Sorted
variable {R S : Type} {cmp : R → R → Ordering} [Std.TransCmp cmp] {address : R → Bytes} {rows : List R}

variable {write : R → S} {written : S → String} {name : Bytes → String}

theorem sorted_names (decides : Decides cmp address) (distinct : (rows.map address).Nodup)
    (renames : ∀ row, written (write row) = name (address row)) (injective : Set.InjOn name {a | a ∈ rows.map address}) :
    Names name (((sortBy cmp rows).map write).map written) (fun a => a ∈ rows.map address) := by
  have named : ((sortBy cmp rows).map write).map written = ((sortBy cmp rows).map address).map name := by
    simp only [List.map_map,Function.comp_def,renames]
  have same : ∀ a, a ∈ (sortBy cmp rows).map address ↔ a ∈ rows.map address :=
    fun a => ((sortBy_perm cmp rows).map address).mem_iff
  have ascending := sorted_keys decides distinct
  rw [named]
  refine ⟨⟨_,ascending,rfl,same⟩,?_⟩
  apply List.Nodup.map_on _ ascending.nodup
  intro a inRows b present equal
  exact injective ((same a).mp inRows) ((same b).mp present) equal

-- The written row of an address is the row of the address, written.
omit [Std.TransCmp cmp] in
theorem sorted_find (distinct : (rows.map address).Nodup) (renames : ∀ row, written (write row) = name (address row))
    (injective : ∀ row ∈ rows, name (address row) = name wanted → address row = wanted) :
    ((sortBy cmp rows).map write).find? (fun entry => written entry = name wanted) =
      (rows.find? (fun row => address row = wanted)).map write := by
  have sorted := sortBy_perm cmp rows
  rw [← find_perm sorted ((sorted.map address).nodup_iff.mpr distinct)]
  apply find_renamed address write written name (fun row _ => renames row)
  intro row member same
  exact injective row (sorted.mem_iff.mp member) same

end Sorted

section Coverage
variable {packages : Packages} {snapshot : Snapshot} {validatorKeys : Record String String} {snapshotHeight : Int}
  {tokenID : String}

def Twenty (name : Bytes → String) : Prop := Set.InjOn name {address | address.length = binaryAddressLength}

theorem account_names {R S : Type} {cmp : R → R → Ordering} [Std.TransCmp cmp] {address : R → Bytes} {rows : List R} {write : R → S}
    {written : S → String} {name : Bytes → String} {accounts : List Account} (twenty : Twenty name)
    (distinct : snapshot.Distinct) (kept : accounts.Sublist snapshot.migrated)
    (addresses : rows.map address = accounts.map (fun account => account.address.bytes)) (decides : Decides cmp address)
    (renames : ∀ row, written (write row) = name (address row)) :
    Names name (((sortBy cmp rows).map write).map written) (fun a => ∃ account ∈ accounts, account.address.bytes = a) := by
  have keys : (rows.map address).Nodup := by
    rw [addresses]
    exact (snapshot.migrated_distinct distinct).sublist (kept.map _)
  refine (sorted_names decides keys renames (twenty.mono ?_)).wanted ?_
  · intro a member
    rw [Set.mem_ofPred_eq,addresses] at member
    obtain ⟨account,present,rfl⟩ := List.mem_map.mp member
    exact snapshot.migrated_length account (kept.mem present)
  · intro a
    rw [addresses,List.mem_map]

theorem auth_names (twenty : Twenty packages.getLisk32AddressFromAddress) (distinct : snapshot.Distinct) :
    Names packages.getLisk32AddressFromAddress ((snapshot.authDataSubstore packages).map AuthStoreEntryOf.address)
      (fun a => ∃ account ∈ snapshot.migrated, account.address.bytes = a) :=
  account_names twenty distinct (.refl _) snapshot.auth_addresses (compareOn_decides _) (authStoreEntry_address packages)

theorem userSubstore_names (twenty : Twenty packages.getLisk32AddressFromAddress) (distinct : snapshot.Distinct) :
    Names packages.getLisk32AddressFromAddress ((snapshot.userSubstore packages tokenID).map UserSubstoreEntryOf.address)
      (fun a => a = packages.addressLegacyReserve ∨ ∃ account ∈ snapshot.migrated, account.address.bytes = a) := by
  have rows := snapshot.userSubstore_addresses packages tokenID
  have member : ∀ a, a ∈ (snapshot.userSubstoreRows packages tokenID).map UserSubstoreEntryOf.address ↔
      a = packages.addressLegacyReserve ∨ ∃ account ∈ snapshot.migrated, account.address.bytes = a := by
    intro a
    rw [rows,List.mem_append,List.mem_singleton,List.mem_map]
    unfold Snapshot.ordinary
    constructor
    · rintro (⟨account,kept,same⟩ | same)
      · exact .inr ⟨account,(List.mem_filter.mp kept).1,same⟩
      · exact .inl same
    · rintro (same | ⟨account,migrated,same⟩)
      · exact .inr same
      · by_cases reserve : a = packages.addressLegacyReserve
        · exact .inr reserve
        · refine .inl ⟨account,List.mem_filter.mpr ⟨migrated,?_⟩,same⟩
          simpa [same] using reserve
  refine Names.wanted (sorted_names userSubstoreComparator_decides
    (snapshot.userSubstore_distinct packages tokenID distinct) (userSubstoreEntry_address packages) (twenty.mono ?_)) member
  intro address inRows
  rcases (member address).mp inRows with rfl | ⟨account,migrated,rfl⟩
  · exact packages.reserve_length
  · exact snapshot.migrated_length account migrated

theorem validator_names (twenty : Twenty packages.getLisk32AddressFromAddress) (distinct : snapshot.Distinct) :
    Names packages.getLisk32AddressFromAddress
      ((snapshot.validators packages validatorKeys snapshotHeight tokenID).map ValidatorEntryOf.address)
      (fun a => ∃ account ∈ snapshot.migrated, account.dpos.delegate.username ≠ "" ∧ account.address.bytes = a) := by
  have names := account_names twenty distinct List.filter_sublist
    (snapshot.validator_addresses validatorKeys snapshotHeight tokenID) (compareOn_decides _) (validatorEntry_address packages)
  apply names.wanted
  intro address
  simp [and_assoc]

theorem staker_names (twenty : Twenty packages.getLisk32AddressFromAddress) (distinct : snapshot.Distinct) :
    Names packages.getLisk32AddressFromAddress ((snapshot.stakers packages tokenID).map StakerOf.address)
      (fun a => ∃ account ∈ snapshot.migrated,
        (account.dpos.sentVotes ≠ [] ∨ account.dpos.unlocking ≠ []) ∧ account.address.bytes = a) := by
  have names := account_names twenty distinct List.filter_sublist (snapshot.staker_addresses packages tokenID)
    (compareOn_decides _) (stakerEntry_address packages)
  apply names.wanted
  intro address
  simp [and_assoc]

theorem legacy_names {accounts : List UnregisteredAccount} (distinct : (accounts.map UnregisteredAccount.address).Nodup) :
    Names toHex ((sortedLegacyAccounts accounts).map LegacyStoreEntryOf.address)
      (fun a => ∃ account ∈ accounts, account.address = a) := by
  have rows : (accounts.map legacyAccount).map LegacyStoreEntryOf.address = accounts.map UnregisteredAccount.address := by
    rw [List.map_map]
    rfl
  refine Names.wanted (sorted_names (compareOn_decides _) (rows ▸ distinct) (fun _ => rfl) toHex_injective.injOn) ?_
  intro address
  rw [rows,List.mem_map]

theorem stores_complete (twenty : Twenty packages.getLisk32AddressFromAddress) (distinct : snapshot.Distinct)
    (unregisteredDistinct : (snapshot.unregisteredAddresses.map UnregisteredAccount.address).Nodup)
    (read : readSnapshot packages db = .ok snapshot)
    (ran : outcome (CreateAsset.init packages rounds db snapshotHeight tokenID pageSize process) = .ok assets) :
    Names packages.getLisk32AddressFromAddress ((stored GenesisData.authDataSubstore assets).map AuthStoreEntryOf.address)
      (fun a => ∃ account ∈ snapshot.migrated, account.address.bytes = a) ∧
    Names packages.getLisk32AddressFromAddress ((stored GenesisData.userSubstore assets).map UserSubstoreEntryOf.address)
      (fun a => a = packages.addressLegacyReserve ∨ ∃ account ∈ snapshot.migrated, account.address.bytes = a) ∧
    Names packages.getLisk32AddressFromAddress ((stored GenesisData.validators assets).map ValidatorEntryOf.address)
      (fun a => ∃ account ∈ snapshot.migrated, account.dpos.delegate.username ≠ "" ∧ account.address.bytes = a) ∧
    Names packages.getLisk32AddressFromAddress ((stored GenesisData.stakers assets).map StakerOf.address)
      (fun a => ∃ account ∈ snapshot.migrated,
        (account.dpos.sentVotes ≠ [] ∨ account.dpos.unlocking ≠ []) ∧ account.address.bytes = a) ∧
    Names toHex ((stored GenesisData.legacyAccounts assets).map LegacyStoreEntryOf.address)
      (fun a => ∃ account ∈ snapshot.unregisteredAddresses, account.address = a) := by
  obtain ⟨validatorKeys,genesisData,_,_,rfl⟩ := init_emits _ _ _ _ _ _ ran read
  simp only [stored_emitted]
  refine ⟨?_,?_,?_,?_,?_⟩
  · simpa [GenesisData.authDataSubstore,getInteropModuleEntry] using auth_names twenty distinct
  · simpa [GenesisData.userSubstore,getInteropModuleEntry] using userSubstore_names twenty distinct
  · simpa [GenesisData.validators,getInteropModuleEntry] using validator_names twenty distinct
  · simpa [GenesisData.stakers,getInteropModuleEntry] using staker_names twenty distinct
  · simpa [GenesisData.legacyAccounts,getInteropModuleEntry] using legacy_names unregisteredDistinct

theorem stores_complete_sample :
    Names Sample.packages.getLisk32AddressFromAddress ((stored GenesisData.authDataSubstore Sample.assets).map AuthStoreEntryOf.address)
      (fun a => ∃ account ∈ Sample.snapshot.migrated, account.address.bytes = a) ∧
    Names Sample.packages.getLisk32AddressFromAddress ((stored GenesisData.userSubstore Sample.assets).map UserSubstoreEntryOf.address)
      (fun a => a = Sample.packages.addressLegacyReserve ∨ ∃ account ∈ Sample.snapshot.migrated, account.address.bytes = a) ∧
    Names Sample.packages.getLisk32AddressFromAddress ((stored GenesisData.validators Sample.assets).map ValidatorEntryOf.address)
      (fun a => ∃ account ∈ Sample.snapshot.migrated, account.dpos.delegate.username ≠ "" ∧ account.address.bytes = a) ∧
    Names Sample.packages.getLisk32AddressFromAddress ((stored GenesisData.stakers Sample.assets).map StakerOf.address)
      (fun a => ∃ account ∈ Sample.snapshot.migrated,
        (account.dpos.sentVotes ≠ [] ∨ account.dpos.unlocking ≠ []) ∧ account.address.bytes = a) ∧
    Names toHex ((stored GenesisData.legacyAccounts Sample.assets).map LegacyStoreEntryOf.address)
      (fun a => ∃ account ∈ Sample.snapshot.unregisteredAddresses, account.address = a) :=
  stores_complete Sample.lisk32_injective.injOn Sample.distinct (by decide) Sample.read Sample.ran

end Coverage
end LiskMigrator
