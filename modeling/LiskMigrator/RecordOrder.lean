import LiskMigrator.InitValidators
import LiskMigrator.Stores
import LiskMigrator.ValidatorKeys

namespace LiskMigrator
open Text Sorting Collections Keyed Outcome

-- One account decoded from two records whose lists are in another order.
structure Account.Permuted (one two : Account) : Prop where
  address : one.address.bytes = two.address.bytes
  token : one.token = two.token
  sequence : one.sequence = two.sequence
  numberOfSignatures : one.keys.numberOfSignatures = two.keys.numberOfSignatures
  mandatoryKeys : one.keys.mandatoryKeys.Perm two.keys.mandatoryKeys
  optionalKeys : one.keys.optionalKeys.Perm two.keys.optionalKeys
  delegate : one.dpos.delegate = two.dpos.delegate
  sentVotes : one.dpos.sentVotes.Perm two.dpos.sentVotes
  distinct : (one.dpos.sentVotes.map SentVote.delegateAddress).Nodup
  unlocking : one.dpos.unlocking = two.dpos.unlocking

section Accounts
variable {one two : Account} (packages : Packages) (tokenID : String)

theorem Account.Permuted.staked (same : one.Permuted two) : one.staked = two.staked := by
  unfold Account.staked
  rw [(same.sentVotes.map SentVote.amount).sum_eq,same.unlocking]

theorem Account.Permuted.holding (same : one.Permuted two) : one.holding = two.holding := by
  unfold Account.holding
  rw [same.token,same.staked]

theorem Account.Permuted.locks (same : one.Permuted two) : getLockedBalances one = getLockedBalances two := by
  rw [getLockedBalances_exact,getLockedBalances_exact,same.staked]

theorem Account.Permuted.user (same : one.Permuted two) :
    createUserSubstoreArrayEntry packages one tokenID = createUserSubstoreArrayEntry packages two tokenID := by
  unfold createUserSubstoreArrayEntry
  rw [same.address,same.token,same.locks]

theorem Account.Permuted.validator (validatorKeys : Record String String) (snapshotHeight : Int) (same : one.Permuted two) :
    createValidatorsArrayEntry one validatorKeys snapshotHeight tokenID =
      createValidatorsArrayEntry two validatorKeys snapshotHeight tokenID := by
  unfold createValidatorsArrayEntry
  rw [same.address,same.delegate]

theorem Account.Permuted.stakes (same : one.Permuted two) : getStakes packages one tokenID = getStakes packages two tokenID := by
  unfold getStakes
  rw [sorted_same (compareOn_decides SentVote.delegateAddress) same.distinct same.sentVotes]

theorem Account.Permuted.staker (same : one.Permuted two) :
    createStakersArrayEntry packages one tokenID = createStakersArrayEntry packages two tokenID := by
  unfold createStakersArrayEntry
  rw [same.address,same.stakes,same.unlocking,same.sentVotes.length_eq]

theorem sortedKeys_same {one two : List Bytes} (same : one.Perm two) : sortBy keyComparator one = sortBy keyComparator two :=
  sortBy_eq_of_perm compare same (fun _ _ _ _ tied => Std.LawfulEqOrd.eq_of_compare tied)

theorem Account.Permuted.auth (same : one.Permuted two) :
    (getAuthModuleEntryBuffer one).2 = (getAuthModuleEntryBuffer two).2 := by
  simp only [getAuthModuleEntryBuffer,sortKeys,sortedKeys_same same.mandatoryKeys,sortedKeys_same same.optionalKeys,
    same.address,same.sequence,same.numberOfSignatures]

end Accounts
-- Two snapshots with the same records in another order, under distinct addresses.
structure Snapshot.Reordered (one two : Snapshot) : Prop where
  accounts : Rearranged Account.Permuted one.accounts two.accounts
  unregisteredAddresses : one.unregisteredAddresses.Perm two.unregisteredAddresses
  distinct : one.Distinct
  distinctUnregistered : (one.unregisteredAddresses.map UnregisteredAccount.address).Nodup

namespace Snapshot.Reordered
variable {packages : Packages} {one two : Snapshot} {tokenID : String}

theorem migrated (same : Reordered one two) : Rearranged Account.Permuted one.migrated two.migrated := by
  apply same.accounts.filter
  intro a b permuted
  rw [permuted.address]

theorem distinctTwo (same : Reordered one two) : two.Distinct :=
  (same.accounts.map (fun _ _ permuted => permuted.address)).nodup_iff.mp same.distinct

theorem count (same : Reordered one two) : one.accounts.length = two.accounts.length := by
  have lengths := (same.accounts.map (fun _ _ permuted => permuted.address)).length_eq
  rwa [List.length_map,List.length_map] at lengths

theorem held (same : Reordered one two) : one.held = two.held :=
  same.migrated.sum (fun _ _ permuted => permuted.holding)

theorem unregistered (same : Reordered one two) : one.unregistered = two.unregistered :=
  (same.unregisteredAddresses.map UnregisteredAccount.balance).sum_eq

theorem reserve (packages : Packages) (same : Reordered one two) :
    Option.Rel Account.Permuted (one.reserve packages) (two.reserve packages) :=
  same.migrated.find (fun _ _ permuted => permuted.address) (one.migrated_distinct same.distinct)

theorem legacyAmount (same : Reordered one two) : one.legacyAmount packages = two.legacyAmount packages := by
  unfold Snapshot.legacyAmount reserveBalance
  rw [same.unregistered]
  have related := same.reserve packages
  generalize one.reserve packages = reserveOne at related ⊢
  generalize two.reserve packages = reserveTwo at related ⊢
  cases related with
  | none => rfl
  | some permuted => rw [Option.elim_some,Option.elim_some,permuted.token]

theorem reserveRow (same : Reordered one two) :
    one.reserveRow packages tokenID = two.reserveRow packages tokenID := by
  unfold Snapshot.reserveRow
  rw [same.legacyAmount]
  have related := same.reserve packages
  generalize one.reserve packages = reserveOne at related ⊢
  generalize two.reserve packages = reserveTwo at related ⊢
  unfold createLegacyReserveAccount
  cases related with
  | none => rfl
  | some permuted => rw [Option.elim_some,Option.elim_some,Option.elim_some,Option.elim_some,permuted.token,permuted.locks]

theorem userSubstore (same : Reordered one two) :
    one.userSubstore packages tokenID = two.userSubstore packages tokenID := by
  have rows : (one.userSubstoreRows packages tokenID).Perm (two.userSubstoreRows packages tokenID) := by
    have reserve : one.reserveRow packages tokenID = two.reserveRow packages tokenID := same.reserveRow
    unfold Snapshot.reserveRow at reserve
    unfold userSubstoreRows
    rw [reserve]
    exact (same.migrated.filterMap (fun _ _ permuted => permuted.user packages tokenID)).append_right _
  unfold Snapshot.userSubstore
  rw [sorted_same userSubstoreComparator_decides (one.userSubstore_distinct packages tokenID same.distinct) rows]

theorem stakers (same : Reordered one two) : one.stakers packages tokenID = two.stakers packages tokenID := by
  have rows := same.migrated.filterMap (fun _ _ permuted => permuted.staker packages tokenID)
  exact congrArg (List.map (stakerEntry packages)) (sorted_same (compareOn_decides StakerOf.address)
    (one.stakers_distinct packages tokenID same.distinct) rows)

theorem authDataSubstore (same : Reordered one two) : one.authDataSubstore packages = two.authDataSubstore packages := by
  have rows := same.migrated.map (fun _ _ permuted => permuted.auth)
  exact congrArg (List.map (authStoreEntry packages)) (sorted_same (compareOn_decides AuthStoreEntryOf.address)
    (one.auth_addresses ▸ one.migrated_distinct same.distinct) rows)

theorem legacyAccounts (same : Reordered one two) :
    sortedLegacyAccounts one.unregisteredAddresses = sortedLegacyAccounts two.unregisteredAddresses := by
  have keys : ((one.unregisteredAddresses.map legacyAccount).map LegacyStoreEntryOf.address).Nodup := by
    rw [List.map_map]
    exact same.distinctUnregistered
  exact congrArg (List.map legacyStoreEntry) (sorted_same (compareOn_decides LegacyStoreEntryOf.address) keys
    (same.unregisteredAddresses.map legacyAccount))

-- The validators agree as soon as the two key tables give every delegate the
-- same key.
theorem validators (same : Reordered one two) {keysOne keysTwo : Record String String} (snapshotHeight : Int)
    (agreed : ∀ account ∈ two.migrated, account.dpos.delegate.username ≠ "" →
      generatorKeyOf keysOne (toHex account.address.bytes) = generatorKeyOf keysTwo (toHex account.address.bytes)) :
    one.validators packages keysOne snapshotHeight tokenID = two.validators packages keysTwo snapshotHeight tokenID := by
  have rows : (one.validatorRows keysOne snapshotHeight tokenID).Perm (two.validatorRows keysTwo snapshotHeight tokenID) := by
    have keyed : two.validatorRows keysOne snapshotHeight tokenID = two.validatorRows keysTwo snapshotHeight tokenID := by
      apply List.filterMap_congr
      intro account member
      unfold createValidatorsArrayEntry
      split
      · rename_i named
        simp only [agreed account member named]
      · rfl
    rw [← keyed]
    exact same.migrated.filterMap (fun _ _ permuted => permuted.validator tokenID keysOne snapshotHeight)
  have distinct : ((one.validatorRows keysOne snapshotHeight tokenID).map ValidatorEntryOf.address).Nodup := by
    rw [validator_addresses]
    exact distinct_filter (one.migrated_distinct same.distinct) _
  exact congrArg (List.map (validatorEntry packages)) (sorted_same (compareOn_decides ValidatorEntryOf.address)
    distinct rows)

end Snapshot.Reordered
section Keys
variable {packages : Packages} {blockKeysOne txKeysOne blockKeysTwo txKeysTwo : List Bytes} {one two : List Account}

theorem generatorKeyOf_same (separate : SeparateKeys packages blockKeysOne txKeysOne)
    (blocks : ∀ key, key ∈ blockKeysOne ↔ key ∈ blockKeysTwo) (transactions : ∀ key, key ∈ txKeysOne ↔ key ∈ txKeysTwo)
    (accounts : Rearranged Account.Permuted one two) (account : Account) (member : account ∈ two)
    (named : account.dpos.delegate.username ≠ "") :
    generatorKeyOf (keyTable packages one blockKeysOne txKeysOne) (toHex account.address.bytes) =
      generatorKeyOf (keyTable packages two blockKeysTwo txKeysTwo) (toHex account.address.bytes) := by
  have occurs : ∀ key, Occurs blockKeysOne txKeysOne key ↔ Occurs blockKeysTwo txKeysTwo key :=
    fun key => or_congr (blocks key) (transactions key)
  have separateTwo : SeparateKeys packages blockKeysTwo txKeysTwo :=
    separate.mono (fun key present => (occurs key).mpr present)
  obtain ⟨original,inOne,permuted⟩ := accounts.source member
  have first := generatorKeyOf_own separate original inOne (permuted.delegate ▸ named)
  have second := generatorKeyOf_own separateTwo account member named
  rw [permuted.address] at first
  by_cases known : ∃ key, Occurs blockKeysOne txKeysOne key ∧ key ≠ [] ∧
      packages.getAddressFromPublicKey key = account.address.bytes
  · obtain ⟨key,present,filled,own⟩ := known
    rw [first.1 key present filled own,second.1 key ((occurs key).mp present) filled own]
  · rw [first.2,second.2]
    · exact fun key present filled own => known ⟨key,(occurs key).mpr present,filled,own⟩
    · exact fun key present filled own => known ⟨key,present,filled,own⟩

end Keys

-- The rows of two scans with the same values show the same keys.
theorem shows_same {rowsOne rowsTwo : List Entry} (values : (rowsOne.map Entry.value).Perm (rowsTwo.map Entry.value))
    (publicKeyOf : Bytes → Except Failure Bytes) (key : Bytes) :
    Shows publicKeyOf rowsOne key ↔ Shows publicKeyOf rowsTwo key := by
  have through : ∀ rows : List Entry, Shows publicKeyOf rows key ↔ ∃ value ∈ rows.map Entry.value, publicKeyOf value = .ok key := by
    intro rows
    simp [Shows]
  simp only [through,values.mem_iff]

theorem decodes_same {rowsOne rowsTwo : List Entry} (values : (rowsOne.map Entry.value).Perm (rowsTwo.map Entry.value))
    {publicKeyOf : Bytes → Except Failure Bytes}
    (decodes : ∀ entry ∈ rowsOne, ∃ publicKey, publicKeyOf entry.value = .ok publicKey) :
    ∀ entry ∈ rowsTwo, ∃ publicKey, publicKeyOf entry.value = .ok publicKey := by
  intro entry member
  obtain ⟨original,inOne,same⟩ := List.mem_map.mp (values.mem_iff.mpr (List.mem_map_of_mem member))
  rw [← same]
  exact decodes original inOne

section GenesisData
variable {packages : Packages} {weights : VoteWeightsWrapper}

def Apart (accounts : List Account) (weights : VoteWeightsWrapper) : Prop :=
  ∀ account ∈ accounts, ∀ voteWeight ∈ weights.voteWeights, ∀ delegate ∈ voteWeight.delegates,
    account.address.ref ≠ delegate.address.ref

theorem createGenesisDataObj_same {one two : List Account} (apartOne : Apart one weights) (apartTwo : Apart two weights)
    (snapshotHeight : Int) :
    createGenesisDataObj packages one weights snapshotHeight = createGenesisDataObj packages two weights snapshotHeight := by
  unfold createGenesisDataObj
  cases ceiling snapshotHeight roundLength with
  | error e => rfl
  | ok r =>
    simp only [bind,Except.bind]
    cases found : weights.voteWeights.find? (fun voteWeight => voteWeight.round = r-2) with
    | none => rfl
    | some voteWeight =>
      have inTable := List.mem_of_find?_eq_some found
      have first : initValidators one voteWeight.delegates = voteWeight.delegates.map DelegateWeight.address :=
        initValidators_unfiltered (fun account member => apartOne account member voteWeight inTable)
      have second : initValidators two voteWeight.delegates = voteWeight.delegates.map DelegateWeight.address :=
        initValidators_unfiltered (fun account member => apartTwo account member voteWeight inTable)
      simp only [sortedInitValidators,first,second]

theorem conclude_same {one two : Database} {snapshotOne snapshotTwo : Snapshot}
    (readOne : readSnapshot packages one = .ok snapshotOne) (readTwo : readSnapshot packages two = .ok snapshotTwo)
    (weights : one.get (chainStateKey chainStateDelegateVoteWeights) = two.get (chainStateKey chainStateDelegateVoteWeights))
    (count : snapshotOne.accounts.length = snapshotTwo.accounts.length) (snapshotHeight : Int) :
    conclude packages one snapshotHeight snapshotOne = conclude packages two snapshotHeight snapshotTwo := by
  unfold conclude
  rw [weights,count]
  congr 1
  funext encoded
  congr 1
  funext voteWeights
  have apartOne := read_apart readOne voteWeights
  rw [count] at apartOne
  exact createGenesisDataObj_same apartOne (read_apart readTwo voteWeights) snapshotHeight

end GenesisData

theorem assets_order_free {packages : Packages} {one two : Database} {snapshotOne snapshotTwo : Snapshot}
    {blockRowsOne txRowsOne blockRowsTwo txRowsTwo : List Entry} {snapshotHeight : Int} {tokenID : String} {pageSize : Int}
    (readOne : readSnapshot packages one = .ok snapshotOne) (readTwo : readSnapshot packages two = .ok snapshotTwo)
    (reordered : snapshotOne.Reordered snapshotTwo)
    (blocksOne : seenRows one dbKeyBlocksId roundsOne pageSize = .ok blockRowsOne)
    (blocksTwo : seenRows two dbKeyBlocksId roundsTwo pageSize = .ok blockRowsTwo)
    (blocks : (blockRowsOne.map Entry.value).Perm (blockRowsTwo.map Entry.value))
    (transactionsOne : seenRows one dbKeyTransactionsId roundsOne pageSize = .ok txRowsOne)
    (transactionsTwo : seenRows two dbKeyTransactionsId roundsTwo pageSize = .ok txRowsTwo)
    (transactions : (txRowsOne.map Entry.value).Perm (txRowsTwo.map Entry.value))
    (weights : one.get (chainStateKey chainStateDelegateVoteWeights) = two.get (chainStateKey chainStateDelegateVoteWeights))
    (separate : Set.InjOn packages.getAddressFromPublicKey {key |
      Shows (generatorPublicKey packages) blockRowsOne key ∨ Shows (senderPublicKey packages) txRowsOne key})
    (ran : outcome (CreateAsset.init packages roundsOne one snapshotHeight tokenID pageSize .fresh) = .ok assets) :
    outcome (CreateAsset.init packages roundsTwo two snapshotHeight tokenID pageSize .fresh) = .ok assets := by
  obtain ⟨validatorKeys,genesisData,scanned,concluded,rfl⟩ := init_emits _ _ _ _ _ _ ran readOne
  obtain ⟨blockSet,blockScan,rest⟩ := bind_ok.mp scanned
  obtain ⟨txSet,txScan,_⟩ := bind_ok.mp rest
  have blockDecodes := added_decodes ((getPublicKeySet_seen blocksOne).symm.trans blockScan)
  have txDecodes := added_decodes ((getPublicKeySet_seen transactionsOne).symm.trans txScan)
  obtain ⟨blockKeysOne,blockSetOne,inBlocksOne⟩ := seen_keys blocksOne blockDecodes
  obtain ⟨txKeysOne,txSetOne,inTxsOne⟩ := seen_keys transactionsOne txDecodes
  obtain ⟨blockKeysTwo,blockSetTwo,inBlocksTwo⟩ := seen_keys blocksTwo (decodes_same blocks blockDecodes)
  obtain ⟨txKeysTwo,txSetTwo,inTxsTwo⟩ := seen_keys transactionsTwo (decodes_same transactions txDecodes)
  have separateOne : SeparateKeys packages blockKeysOne txKeysOne := by
    apply separate.mono
    rintro key (inBlocks | inTxs)
    · exact .inl ((inBlocksOne key).mp inBlocks)
    · exact .inr ((inTxsOne key).mp inTxs)
  have agreed := generatorKeyOf_same separateOne
    (fun key => (inBlocksOne key).trans ((shows_same blocks _ key).trans (inBlocksTwo key).symm))
    (fun key => (inTxsOne key).trans ((shows_same transactions _ key).trans (inTxsTwo key).symm)) reordered.migrated
  have keysOne : validatorKeys = keyTable packages snapshotOne.migrated blockKeysOne txKeysOne :=
    Except.ok.inj (scanned.symm.trans (getValidatorKeys_table blockSetOne txSetOne))
  have preparedTwo : prepare packages roundsTwo two pageSize =
      .ok (snapshotTwo,keyTable packages snapshotTwo.migrated blockKeysTwo txKeysTwo) :=
    bind_ok.mpr ⟨snapshotTwo,readTwo,bind_ok.mpr ⟨_,getValidatorKeys_table blockSetTwo txSetTwo,rfl⟩⟩
  rw [conclude_same readOne readTwo weights reordered.count snapshotHeight] at concluded
  rw [init_exact,preparedTwo]
  refine bind_ok.mpr ⟨_,rfl,bind_ok.mpr ⟨genesisData,concluded,congrArg Except.ok ?_⟩⟩
  subst keysOne
  unfold Snapshot.emitted Snapshot.totalSupply
  rw [reordered.authDataSubstore,reordered.legacyAccounts,reordered.validators snapshotHeight agreed,reordered.stakers,
    reordered.userSubstore,reordered.held,reordered.legacyAmount]

namespace Sample

def shuffled : Database := .ofEntries (entries [shuffledVoter,delegateAccount,reserveAccount] secondHeader firstHeader
  unregistered.reverse voteWeights)

def shuffledSnapshot : Snapshot := ⟨placeAccounts [shuffledVoter,delegateAccount,reserveAccount],unregistered.reverse⟩

theorem shuffled_read : readSnapshot packages shuffled = .ok shuffledSnapshot := by decide +kernel

theorem voter_shuffled (refOne refTwo : Nat) : ({ voterAccount with address := ⟨refOne,voterAddress⟩ } : Account).Permuted
    { shuffledVoter with address := ⟨refTwo,voterAddress⟩ } :=
  ⟨rfl,rfl,rfl,rfl,.swap _ _ _,.refl _,rfl,.swap _ _ _,
    show [delegateAddress,voterAddress].Nodup by decide,rfl⟩

theorem reordered : snapshot.Reordered shuffledSnapshot where
  accounts := ⟨snapshot.accounts.reverse,(List.reverse_perm _).symm,
    .cons (voter_shuffled 2 0) (.cons ⟨rfl,rfl,rfl,rfl,.refl _,.refl _,rfl,.refl _,by decide,rfl⟩
      (.cons ⟨rfl,rfl,rfl,rfl,.refl _,.refl _,rfl,.refl _,by decide,rfl⟩ .nil))⟩
  unregisteredAddresses := (List.reverse_perm _).symm
  distinct := distinct
  distinctUnregistered := by decide

def blockRows (first second : BlockHeader) : List Entry :=
  [⟨databaseKey dbKeyBlocksId (List.replicate 32 1),encodeHeader first⟩,
    ⟨databaseKey dbKeyBlocksId (List.replicate 32 200),encodeHeader second⟩]

def transactionRows : List Entry := [⟨databaseKey dbKeyTransactionsId (List.replicate 32 3),encodeTransaction transaction⟩]

theorem blocks_seen : seenRows database dbKeyBlocksId 4 1 = .ok (blockRows firstHeader secondHeader) := by decide +kernel

theorem shuffled_blocks : seenRows shuffled dbKeyBlocksId 4 1 = .ok (blockRows secondHeader firstHeader) := by decide +kernel

theorem transactions_seen : seenRows database dbKeyTransactionsId 4 1 = .ok transactionRows := by decide +kernel

theorem shuffled_transactions : seenRows shuffled dbKeyTransactionsId 4 1 = .ok transactionRows := by decide +kernel

theorem shown : ∀ key, Shows (generatorPublicKey packages) (blockRows firstHeader secondHeader) key ∨
    Shows (senderPublicKey packages) transactionRows key → Occurs [delegateKey] [voterKey] key := by
  have first : generatorPublicKey packages (encodeHeader firstHeader) = .ok delegateKey := by decide +kernel
  have second : generatorPublicKey packages (encodeHeader secondHeader) = .ok delegateKey := by decide +kernel
  have sent : senderPublicKey packages (encodeTransaction transaction) = .ok voterKey := by decide +kernel
  rintro key (⟨entry,member,decoded⟩ | ⟨entry,member,decoded⟩)
  · rcases List.mem_cons.mp member with rfl | last
    · cases first.symm.trans decoded
      exact .inl List.mem_cons_self
    · cases List.mem_singleton.mp last
      cases second.symm.trans decoded
      exact .inl List.mem_cons_self
  · cases List.mem_singleton.mp member
    cases sent.symm.trans decoded
    exact .inr List.mem_cons_self

end Sample

theorem assets_order_free_sample : outcome (Sample.run Sample.shuffled .fresh) = .ok Sample.assets :=
  assets_order_free Sample.read Sample.shuffled_read Sample.reordered Sample.blocks_seen Sample.shuffled_blocks
    (.swap _ _ _) Sample.transactions_seen Sample.shuffled_transactions (.refl _) (by decide +kernel)
    (Sample.separate.mono Sample.shown) Sample.ran

end LiskMigrator
