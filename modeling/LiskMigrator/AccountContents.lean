import LiskMigrator.Staking

namespace LiskMigrator
open Text Sorting Collections Keyed Outcome

-- The entries of a list in ascending order, none lost and none added.
structure AscendingSort (cmp : α → α → Ordering) (items sorted : List α) : Prop where
  same : sorted.Perm items
  ascending : sorted.Pairwise (Before cmp)

theorem sortBy_sorts {cmp : α → α → Ordering} [Std.TransCmp cmp] (items : List α) : AscendingSort cmp items (sortBy cmp items) :=
  ⟨sortBy_perm cmp items,sortBy_ordered items⟩

-- What the auth entry of an account says of it.
structure AuthContents (account : Account) (authAccount : AuthAccountEntry) : Prop where
  nonce : authAccount.nonce = decimal account.sequence.nonce
  numberOfSignatures : authAccount.numberOfSignatures = account.keys.numberOfSignatures
  mandatoryKeys : ∃ sorted, AscendingSort compare account.keys.mandatoryKeys sorted ∧
    authAccount.mandatoryKeys = sorted.map toHex
  optionalKeys : ∃ sorted, AscendingSort compare account.keys.optionalKeys sorted ∧
    authAccount.optionalKeys = sorted.map toHex

-- What the staker entry of an account says of it.
structure StakerContents (name : Bytes → String) (account : Account) (staker : Staker) : Prop where
  stakes : ∃ sorted, AscendingSort (compareOn SentVote.delegateAddress) account.dpos.sentVotes sorted ∧
    staker.stakes.map (fun stake => (stake.validatorAddress,stake.amount)) =
      sorted.map (fun vote => (name vote.delegateAddress,vote.amount))
  pendingUnlocks : staker.pendingUnlocks = account.dpos.unlocking.map (fun unlock =>
    ⟨name unlock.delegateAddress,unlock.amount,unlock.unvoteHeight⟩)

section Contents
variable (packages : Packages) (snapshot : Snapshot) (tokenID : String)

theorem auth_contents (account : Account) : AuthContents account (getAuthModuleEntryBuffer account).2.authAccount where
  nonce := rfl
  numberOfSignatures := rfl
  mandatoryKeys := ⟨_,sortBy_sorts account.keys.mandatoryKeys,rfl⟩
  optionalKeys := ⟨_,sortBy_sorts account.keys.optionalKeys,rfl⟩

theorem staker_contents (created : createStakersArrayEntry packages account tokenID = some row) :
    StakerContents packages.getLisk32AddressFromAddress account (stakerEntry packages row) := by
  unfold createStakersArrayEntry at created
  split at created
  · cases created
    refine ⟨⟨_,sortBy_sorts account.dpos.sentVotes,?_⟩,rfl⟩
    change (getStakes packages account tokenID).map _ = _
    unfold getStakes
    rw [List.map_map]
    rfl
  · cases created

theorem auth_written {entry : AuthStoreEntry} : entry ∈ snapshot.authDataSubstore packages ↔
    ∃ account ∈ snapshot.migrated, entry = authStoreEntry packages (getAuthModuleEntryBuffer account).2 := by
  unfold Snapshot.authDataSubstore Snapshot.authRows
  simp only [List.mem_map,mem_sortBy]
  constructor
  · intro given
    obtain ⟨_,⟨account,member,rfl⟩,rfl⟩ := given
    exact ⟨account,member,rfl⟩
  · intro given
    obtain ⟨account,member,rfl⟩ := given
    exact ⟨_,⟨account,member,rfl⟩,rfl⟩

theorem staker_written {entry : Staker} : entry ∈ snapshot.stakers packages tokenID ↔
    ∃ account ∈ snapshot.migrated, ∃ row, createStakersArrayEntry packages account tokenID = some row ∧
      entry = stakerEntry packages row := by
  unfold Snapshot.stakers Snapshot.stakerRows
  simp only [List.mem_map,mem_sortBy,List.mem_filterMap]
  constructor
  · intro given
    obtain ⟨row,⟨account,member,created⟩,rfl⟩ := given
    exact ⟨account,member,row,created,rfl⟩
  · intro given
    obtain ⟨account,member,row,created,rfl⟩ := given
    exact ⟨row,⟨account,member,created⟩,rfl⟩

theorem staker_created (account : Account) : (∃ row, createStakersArrayEntry packages account tokenID = some row) ↔
    account.dpos.sentVotes ≠ [] ∨ account.dpos.unlocking ≠ [] := by
  unfold createStakersArrayEntry
  split
  · rename_i active
    exact iff_of_true ⟨_,rfl⟩ (by simpa using active)
  · rename_i idle
    exact iff_of_false (by simp) (by simpa using idle)

-- The account of an address is known by the name of the address.
theorem named_account (twenty : Twenty packages.getLisk32AddressFromAddress) (distinct : snapshot.Distinct)
    (one : account ∈ snapshot.migrated) (two : other ∈ snapshot.migrated)
    (same : packages.getLisk32AddressFromAddress other.address.bytes = packages.getLisk32AddressFromAddress account.address.bytes) :
    other = account := by
  have addresses := twenty (snapshot.migrated_length other two) (snapshot.migrated_length account one) same
  exact unique (snapshot.migrated_distinct distinct) two one addresses

end Contents
-- The records with other key lists in the accounts.
section Rekeyed
variable (f : KeysState → KeysState)

def Account.rekeyed (account : Account) : Account := { account with keys := f account.keys }

def Snapshot.rekeyed (snapshot : Snapshot) : Snapshot := { snapshot with accounts := snapshot.accounts.map (Account.rekeyed f) }

def Packages.rekeyed (packages : Packages) : Packages :=
  { packages with codec := { packages.codec with account := fun value => (packages.codec.account value).map (Account.rekeyed f) } }

theorem mapM_after (g : α → Except ε β) (h : β → γ) (items : List α) :
    items.mapM (fun item => (g item).map h) = (items.mapM g).map (List.map h) := by
  induction items with
  | nil => rfl
  | cons item rest ih =>
    rw [List.mapM_cons,List.mapM_cons,ih]
    cases g item with
    | error e => rfl
    | ok b =>
      cases rest.mapM g with
      | error e => rfl
      | ok others => rfl

theorem placed_rekeyed (accounts : List Account) :
    placeAccounts (accounts.map (Account.rekeyed f)) = (placeAccounts accounts).map (Account.rekeyed f) := by
  apply List.ext_getElem?
  intro i
  simp only [placeAccounts,List.getElem?_map,List.getElem?_mapIdx,Option.map_map]
  rfl

theorem readAccounts_rekeyed (packages : Packages) (db : Database) :
    readAccounts (packages.rekeyed f) db = (readAccounts packages db).map (List.map (Account.rekeyed f)) := by
  unfold readAccounts
  cases db.createReadStream ⟨accountKey (List.replicate 20 0),accountKey (List.replicate 20 255),none⟩ with
  | error e => rfl
  | ok stream =>
    have decoded : getDataFromDBStream stream (packages.rekeyed f).codec.account =
        (getDataFromDBStream stream packages.codec.account).map (List.map (Account.rekeyed f)) := by
      have each : (fun entry : Entry => listener ((packages.rekeyed f).codec.account entry.value)) =
          fun entry => (listener (packages.codec.account entry.value)).map (Account.rekeyed f) :=
        funext (fun entry => listener_map (Account.rekeyed f) (packages.codec.account entry.value))
      unfold getDataFromDBStream
      rw [each]
      exact mapM_after (fun entry : Entry => listener (packages.codec.account entry.value)) (Account.rekeyed f) stream
    simp only [bind,Except.bind,decoded]
    cases getDataFromDBStream stream packages.codec.account with
    | error e => rfl
    | ok accounts => exact congrArg Except.ok (placed_rekeyed f accounts)

theorem readSnapshot_rekeyed (packages : Packages) (db : Database) :
    readSnapshot (packages.rekeyed f) db = (readSnapshot packages db).map (Snapshot.rekeyed f) := by
  unfold readSnapshot
  cases db.get (chainStateKey chainStateUnregisteredAddresses) with
  | error e => rfl
  | ok encoded =>
    simp only [bind,Except.bind,readAccounts_rekeyed]
    cases readAccounts packages db with
    | error e => rfl
    | ok accounts =>
      have same : (packages.rekeyed f).codec.unregisteredAddresses encoded = packages.codec.unregisteredAddresses encoded := rfl
      simp only [Except.map,same]
      cases packages.codec.unregisteredAddresses encoded with
      | error e => rfl
      | ok unregisteredAddresses => rfl

theorem migrated_rekeyed (snapshot : Snapshot) : (snapshot.rekeyed f).migrated = snapshot.migrated.map (Account.rekeyed f) := by
  unfold Snapshot.migrated Snapshot.rekeyed
  rw [List.filter_map]
  rfl

theorem delegateSet_rekeyed (accounts : List Account) : delegateSet (accounts.map (Account.rekeyed f)) = delegateSet accounts :=
  List.foldl_map

theorem prepare_rekeyed (prepared : prepare packages rounds db pageSize = .ok (snapshot,validatorKeys)) :
    prepare (packages.rekeyed f) rounds db pageSize = .ok (snapshot.rekeyed f,validatorKeys) := by
  obtain ⟨read,scanned⟩ := prepare_parts prepared
  have keys : getValidatorKeys (packages.rekeyed f) rounds (snapshot.rekeyed f).migrated db pageSize = .ok validatorKeys := by
    rw [← scanned,migrated_rekeyed]
    unfold getValidatorKeys
    rw [delegateSet_rekeyed]
    rfl
  have again : readSnapshot (packages.rekeyed f) db = .ok (snapshot.rekeyed f) := by
    rw [readSnapshot_rekeyed,read]
    rfl
  exact bind_ok.mpr ⟨_,again,bind_ok.mpr ⟨validatorKeys,keys,rfl⟩⟩

theorem conclude_rekeyed (packages : Packages) (db : Database) (snapshotHeight : Int) (snapshot : Snapshot) :
    conclude (packages.rekeyed f) db snapshotHeight (snapshot.rekeyed f) = conclude packages db snapshotHeight snapshot := by
  have banned : accountBannedMap ((snapshot.rekeyed f).migrated.map sortKeys) = accountBannedMap (snapshot.migrated.map sortKeys) := by
    rw [migrated_rekeyed]
    unfold accountBannedMap
    rw [List.foldl_map,List.foldl_map,List.foldl_map]
    rfl
  have count : (snapshot.rekeyed f).accounts.length = snapshot.accounts.length := List.length_map _
  unfold conclude createGenesisDataObj sortedInitValidators initValidators
  rw [banned,count]
  rfl

theorem reserve_rekeyed (packages : Packages) (snapshot : Snapshot) :
    (snapshot.rekeyed f).reserve (packages.rekeyed f) = (snapshot.reserve packages).map (Account.rekeyed f) := by
  unfold Snapshot.reserve
  rw [migrated_rekeyed,List.find?_map]
  rfl

theorem legacyAmount_rekeyed (packages : Packages) (snapshot : Snapshot) :
    (snapshot.rekeyed f).legacyAmount (packages.rekeyed f) = snapshot.legacyAmount packages := by
  unfold Snapshot.legacyAmount Snapshot.reserveBalance
  rw [reserve_rekeyed,Option.elim_map]
  rfl

theorem userSubstore_rekeyed (packages : Packages) (snapshot : Snapshot) (tokenID : String) :
    (snapshot.rekeyed f).userSubstore (packages.rekeyed f) tokenID = snapshot.userSubstore packages tokenID := by
  have reserve : createLegacyReserveAccount (packages.rekeyed f) ((snapshot.reserve packages).map (Account.rekeyed f))
      (snapshot.legacyAmount packages) tokenID =
      createLegacyReserveAccount packages (snapshot.reserve packages) (snapshot.legacyAmount packages) tokenID := by
    unfold createLegacyReserveAccount
    rw [Option.elim_map,Option.elim_map]
    rfl
  unfold Snapshot.userSubstore Snapshot.userSubstoreRows
  rw [migrated_rekeyed,List.filterMap_map,reserve_rekeyed,legacyAmount_rekeyed,reserve]
  rfl

theorem validators_rekeyed (packages : Packages) (snapshot : Snapshot) (validatorKeys : Record String String) (snapshotHeight : Int)
    (tokenID : String) : (snapshot.rekeyed f).validators (packages.rekeyed f) validatorKeys snapshotHeight tokenID =
      snapshot.validators packages validatorKeys snapshotHeight tokenID := by
  unfold Snapshot.validators Snapshot.validatorRows
  rw [migrated_rekeyed,List.filterMap_map]
  rfl

theorem stakers_rekeyed (packages : Packages) (snapshot : Snapshot) (tokenID : String) :
    (snapshot.rekeyed f).stakers (packages.rekeyed f) tokenID = snapshot.stakers packages tokenID := by
  unfold Snapshot.stakers Snapshot.stakerRows
  rw [migrated_rekeyed,List.filterMap_map]
  rfl

theorem totalSupply_rekeyed (packages : Packages) (snapshot : Snapshot) (before : Nat) :
    (snapshot.rekeyed f).totalSupply (packages.rekeyed f) before = snapshot.totalSupply packages before := by
  unfold Snapshot.totalSupply Snapshot.held
  rw [legacyAmount_rekeyed,migrated_rekeyed,List.map_map]
  rfl

def besidesAuth (assets : List GenesisAssetEntry) : List GenesisAssetEntry :=
  assets.filter (fun asset => asset.module ≠ moduleNameAuth)

theorem emitted_rekeyed (packages : Packages) (snapshot : Snapshot) (validatorKeys : Record String String) (snapshotHeight : Int)
    (tokenID : String) (before : Nat) (genesisData : GenesisDataEntry) :
    besidesAuth ((snapshot.rekeyed f).emitted (packages.rekeyed f) validatorKeys snapshotHeight tokenID before genesisData) =
      besidesAuth (snapshot.emitted packages validatorKeys snapshotHeight tokenID before genesisData) := by
  unfold Snapshot.emitted
  rw [userSubstore_rekeyed,validators_rekeyed,stakers_rekeyed,totalSupply_rekeyed]
  rfl

-- Whatever the key lists are, the other modules get the same entries.
theorem init_rekeyed (ran : outcome (CreateAsset.init packages rounds db snapshotHeight tokenID pageSize process) = .ok assets) :
    ∃ others, outcome (CreateAsset.init (packages.rekeyed f) rounds db snapshotHeight tokenID pageSize process) = .ok others ∧
      besidesAuth others = besidesAuth assets := by
  obtain ⟨snapshot,validatorKeys,genesisData,prepared,concluded,rfl⟩ := init_ok _ _ _ _ _ _ ran
  refine ⟨_,?_,emitted_rekeyed f packages snapshot validatorKeys snapshotHeight tokenID process.totalLSKSupply genesisData⟩
  rw [init_exact,prepare_rekeyed f prepared]
  exact bind_ok.mpr ⟨_,rfl,bind_ok.mpr ⟨genesisData,(conclude_rekeyed f packages db snapshotHeight snapshot).trans concluded,rfl⟩⟩

end Rekeyed

section Assets
variable {packages : Packages} {snapshot : Snapshot} {snapshotHeight : Int} {tokenID : String}

theorem account_contents (twenty : Twenty packages.getLisk32AddressFromAddress) (distinct : snapshot.Distinct)
    (read : readSnapshot packages db = .ok snapshot)
    (ran : outcome (CreateAsset.init packages rounds db snapshotHeight tokenID pageSize process) = .ok assets) :
    (∀ account ∈ snapshot.accounts, account.address.bytes.length = binaryAddressLength →
      ((∃ entry ∈ stored GenesisData.authDataSubstore assets,
          entry.address = packages.getLisk32AddressFromAddress account.address.bytes) ∧
        ∀ entry ∈ stored GenesisData.authDataSubstore assets,
          entry.address = packages.getLisk32AddressFromAddress account.address.bytes → AuthContents account entry.authAccount) ∧
      ((∃ staker ∈ stored GenesisData.stakers assets,
          staker.address = packages.getLisk32AddressFromAddress account.address.bytes) ↔
        account.dpos.sentVotes ≠ [] ∨ account.dpos.unlocking ≠ []) ∧
      ∀ staker ∈ stored GenesisData.stakers assets,
        staker.address = packages.getLisk32AddressFromAddress account.address.bytes →
          StakerContents packages.getLisk32AddressFromAddress account staker) ∧
    ∀ f, ∃ others, outcome (CreateAsset.init (packages.rekeyed f) rounds db snapshotHeight tokenID pageSize process) = .ok others ∧
      besidesAuth others = besidesAuth assets := by
  refine ⟨?_,fun f => init_rekeyed f ran⟩
  obtain ⟨validatorKeys,genesisData,_,_,rfl⟩ := init_emits _ _ _ _ _ _ ran read
  have auths : stored GenesisData.authDataSubstore (snapshot.emitted packages validatorKeys snapshotHeight tokenID
      process.totalLSKSupply genesisData) = snapshot.authDataSubstore packages := by
    simp [GenesisData.authDataSubstore,getInteropModuleEntry]
  have stakers : stored GenesisData.stakers (snapshot.emitted packages validatorKeys snapshotHeight tokenID
      process.totalLSKSupply genesisData) = snapshot.stakers packages tokenID := by
    simp [GenesisData.stakers,getInteropModuleEntry]
  rw [auths,stakers]
  intro account member length
  have migrated : account ∈ snapshot.migrated := List.mem_filter.mpr ⟨member,decide_eq_true length⟩
  refine ⟨⟨⟨_,(auth_written packages snapshot).mpr ⟨account,migrated,rfl⟩,rfl⟩,?_⟩,⟨?_,?_⟩,?_⟩
  · intro entry written same
    obtain ⟨other,present,rfl⟩ := (auth_written packages snapshot).mp written
    cases named_account packages snapshot twenty distinct migrated present same
    exact auth_contents account
  · intro given
    obtain ⟨entry,written,same⟩ := given
    obtain ⟨other,present,row,created,rfl⟩ := (staker_written packages snapshot tokenID).mp written
    rw [stakerEntry_address,staker_address packages tokenID other row created] at same
    cases named_account packages snapshot twenty distinct migrated present same
    exact (staker_created packages tokenID account).mp ⟨row,created⟩
  · intro active
    obtain ⟨row,created⟩ := (staker_created packages tokenID account).mpr active
    refine ⟨_,(staker_written packages snapshot tokenID).mpr ⟨account,migrated,row,created,rfl⟩,?_⟩
    rw [stakerEntry_address,staker_address packages tokenID account row created]
  · intro entry written same
    obtain ⟨other,present,row,created,rfl⟩ := (staker_written packages snapshot tokenID).mp written
    rw [stakerEntry_address,staker_address packages tokenID other row created] at same
    cases named_account packages snapshot twenty distinct migrated present same
    exact staker_contents packages tokenID created

theorem account_contents_sample :
    (∃ account ∈ Sample.snapshot.accounts, account.address.bytes = Sample.voterAddress ∧
      (∃ entry ∈ stored GenesisData.authDataSubstore Sample.assets,
        entry.address = Sample.packages.getLisk32AddressFromAddress Sample.voterAddress ∧ AuthContents account entry.authAccount) ∧
      ∃ staker ∈ stored GenesisData.stakers Sample.assets,
        staker.address = Sample.packages.getLisk32AddressFromAddress Sample.voterAddress ∧
          StakerContents Sample.packages.getLisk32AddressFromAddress account staker) ∧
    ∀ f, ∃ others, outcome (CreateAsset.init (Sample.packages.rekeyed f) 4 Sample.database 300 Sample.tokenID 1 .fresh) = .ok others ∧
      besidesAuth others = besidesAuth Sample.assets := by
  have present : ∃ account ∈ Sample.snapshot.accounts, account.address.bytes = Sample.voterAddress ∧ ¬ account.dpos.sentVotes.isEmpty := by
    decide +kernel
  have length : Sample.voterAddress.length = binaryAddressLength := by decide +kernel
  obtain ⟨account,member,address,voted⟩ := present
  have votes : account.dpos.sentVotes ≠ [] := fun none => voted (List.isEmpty_iff.mpr none)
  have contents := account_contents Sample.lisk32_injective.injOn Sample.distinct Sample.read Sample.ran
  obtain ⟨⟨⟨entry,written,named⟩,same⟩,active,kept⟩ := contents.1 account member (by rw [address]; exact length)
  obtain ⟨staker,staked,owned⟩ := active.mpr (.inl votes)
  exact ⟨⟨account,member,address,⟨entry,written,address ▸ named,same entry written named⟩,
    ⟨staker,staked,address ▸ owned,kept staker staked owned⟩⟩,contents.2⟩

end Assets
end LiskMigrator
