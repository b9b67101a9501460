import LiskMigrator.AccountContents
import LiskMigrator.RecordOrder

namespace LiskMigrator
open Text Sorting Collections Keyed Outcome

-- One account read from two databases, as far as it is carried into the genesis
-- assets: of a delegate without a name nothing is, of one with a name neither the
-- ban nor the votes received are.
structure Account.Carried (one two : Account) : Prop where
  address : one.address.bytes = two.address.bytes
  token : one.token = two.token
  sequence : one.sequence = two.sequence
  numberOfSignatures : one.keys.numberOfSignatures = two.keys.numberOfSignatures
  mandatoryKeys : one.keys.mandatoryKeys.Perm two.keys.mandatoryKeys
  optionalKeys : one.keys.optionalKeys.Perm two.keys.optionalKeys
  username : one.dpos.delegate.username = two.dpos.delegate.username
  delegate : one.dpos.delegate.username ≠ "" → one.dpos.delegate.pomHeights = two.dpos.delegate.pomHeights ∧
    one.dpos.delegate.consecutiveMissedBlocks = two.dpos.delegate.consecutiveMissedBlocks ∧
    one.dpos.delegate.lastForgedHeight = two.dpos.delegate.lastForgedHeight
  sentVotes : one.dpos.sentVotes.Perm two.dpos.sentVotes
  unlocking : one.dpos.unlocking = two.dpos.unlocking

theorem Account.Carried.symm {one two : Account} (carried : one.Carried two) : two.Carried one where
  address := carried.address.symm
  token := carried.token.symm
  sequence := carried.sequence.symm
  numberOfSignatures := carried.numberOfSignatures.symm
  mandatoryKeys := carried.mandatoryKeys.symm
  optionalKeys := carried.optionalKeys.symm
  username := carried.username.symm
  delegate := by
    intro named
    obtain ⟨heights,missed,forged⟩ := carried.delegate (carried.username ▸ named)
    exact ⟨heights.symm,missed.symm,forged.symm⟩
  sentVotes := carried.sentVotes.symm
  unlocking := carried.unlocking.symm

-- The votes and the unlocks are for addresses of accounts.
def Account.Addressed (account : Account) : Prop :=
  (∀ vote ∈ account.dpos.sentVotes, vote.delegateAddress.length = binaryAddressLength) ∧
    ∀ unlock ∈ account.dpos.unlocking, unlock.delegateAddress.length = binaryAddressLength

section Rows
variable {packages : Packages} {one two : Snapshot} {a b : Account}

theorem sorted_inj {items others : List Bytes} (same : (sortBy keyComparator items).map keyMapper = (sortBy keyComparator others).map keyMapper) :
    items.Perm others := by
  have sorted := toHex_injective.list_map same
  exact (sortBy_perm keyComparator items).symm.trans (sorted ▸ sortBy_perm keyComparator others)

-- The auth entries name every account that is migrated.
theorem auth_carried (twenty : Twenty packages.getLisk32AddressFromAddress)
    (same : one.authDataSubstore packages = two.authDataSubstore packages) (member : a ∈ one.migrated) :
    ∃ b ∈ two.migrated, a.address.bytes = b.address.bytes ∧ a.sequence = b.sequence ∧
      a.keys.numberOfSignatures = b.keys.numberOfSignatures ∧ a.keys.mandatoryKeys.Perm b.keys.mandatoryKeys ∧
      a.keys.optionalKeys.Perm b.keys.optionalKeys := by
  have written := (auth_written packages one).mpr ⟨a,member,rfl⟩
  rw [same] at written
  obtain ⟨b,inTwo,entry⟩ := (auth_written packages two).mp written
  have names := congrArg AuthStoreEntryOf.address entry
  have auths := congrArg AuthStoreEntryOf.authAccount entry
  have address := twenty (one.migrated_length a member) (two.migrated_length b inTwo) names
  have nonces := decimal_inj.mp (congrArg AuthAccountEntry.nonce auths)
  refine ⟨b,inTwo,address,congrArg SequenceState.mk nonces,congrArg AuthAccountEntry.numberOfSignatures auths,?_,?_⟩
  · exact sorted_inj (congrArg AuthAccountEntry.mandatoryKeys auths)
  · exact sorted_inj (congrArg AuthAccountEntry.optionalKeys auths)

theorem user_written {snapshot : Snapshot} {entry : UserSubstoreEntry} : entry ∈ snapshot.userSubstore packages tokenID ↔
    (∃ account ∈ snapshot.ordinary packages, entry = userSubstoreEntry packages (userSubstoreRow tokenID account)) ∨
      entry = userSubstoreEntry packages (snapshot.reserveRow packages tokenID) := by
  unfold Snapshot.userSubstore
  rw [Snapshot.userSubstoreRows_exact,List.mem_map]
  simp only [mem_sortBy,List.mem_append,List.mem_map,List.mem_singleton]
  constructor
  · rintro ⟨_,⟨account,member,rfl⟩ | rfl,rfl⟩
    · exact .inl ⟨account,member,rfl⟩
    · exact .inr rfl
  · rintro (⟨account,member,rfl⟩ | rfl)
    · exact ⟨_,.inl ⟨account,member,rfl⟩,rfl⟩
    · exact ⟨_,.inr rfl,rfl⟩

theorem reserve_account (distinct : one.Distinct) (member : a ∈ one.migrated) (reserve : a.address.bytes = packages.addressLegacyReserve) :
    one.reserve packages = some a := (find_exact (one.migrated_distinct distinct)).mpr ⟨member,reserve⟩

theorem token_carried (twenty : Twenty packages.getLisk32AddressFromAddress) (distinctOne : one.Distinct) (distinctTwo : two.Distinct)
    (same : one.userSubstore packages tokenOne = two.userSubstore packages tokenTwo) (inOne : a ∈ one.migrated) (inTwo : b ∈ two.migrated)
    (address : a.address.bytes = b.address.bytes) : a.token = b.token := by
  apply congrArg TokenState.mk
  by_cases reserve : a.address.bytes = packages.addressLegacyReserve
  · -- either store has one entry under this address, which is not made of the account alone
    have entries := (reserve_entry twenty distinctOne).symm.trans ((congrArg _ same).trans (reserve_entry twenty distinctTwo))
    have balances := decimal_inj.mp (congrArg UserSubstoreEntryOf.availableBalance (List.singleton_inj.mp entries))
    rw [reserve_account distinctOne inOne reserve,reserve_account distinctTwo inTwo (address ▸ reserve)] at balances
    exact balances
  · have ordinary : a ∈ one.ordinary packages := List.mem_filter.mpr ⟨inOne,decide_eq_true reserve⟩
    have written : userSubstoreEntry packages (userSubstoreRow tokenOne a) ∈ one.userSubstore packages tokenOne :=
      user_written.mpr (.inl ⟨a,ordinary,rfl⟩)
    rw [same] at written
    rcases user_written.mp written with account | reserveRow
    · obtain ⟨other,kept,entry⟩ := account
      have migrated := (List.mem_filter.mp kept).1
      have names := twenty (one.migrated_length a inOne) (two.migrated_length other migrated) (congrArg UserSubstoreEntryOf.address entry)
      have own : other = b := unique (two.migrated_distinct distinctTwo) migrated inTwo (names.symm.trans address)
      subst own
      exact decimal_inj.mp (congrArg UserSubstoreEntryOf.availableBalance entry)
    · have names := congrArg UserSubstoreEntryOf.address reserveRow
      exact absurd (twenty (one.migrated_length a inOne) packages.reserve_length names) reserve

theorem stakes_inj (twenty : Twenty packages.getLisk32AddressFromAddress) (addressedOne : a.Addressed) (addressedTwo : b.Addressed)
    (same : getStakes packages a tokenOne = getStakes packages b tokenTwo) : a.dpos.sentVotes.Perm b.dpos.sentVotes := by
  have sorted : sortBy (compareOn SentVote.delegateAddress) a.dpos.sentVotes = sortBy (compareOn SentVote.delegateAddress) b.dpos.sentVotes := by
    have votes := congrArg (List.map (fun stake : Stake => (stake.validatorAddress,stake.amount))) same
    unfold getStakes at votes
    rw [List.map_map,List.map_map] at votes
    apply map_exact (f := fun vote : SentVote => (packages.getLisk32AddressFromAddress vote.delegateAddress,vote.amount)) votes
    intro first inOne second inTwo equal
    obtain ⟨delegateAddress,amount⟩ := first
    obtain ⟨otherAddress,otherAmount⟩ := second
    obtain ⟨names,rfl⟩ := Prod.mk.inj equal
    cases twenty (addressedOne.1 _ (mem_sortBy.mp inOne)) (addressedTwo.1 _ (mem_sortBy.mp inTwo)) names
    rfl
  have back := sortBy_perm (compareOn SentVote.delegateAddress) b.dpos.sentVotes
  rw [← sorted] at back
  exact (sortBy_perm _ _).symm.trans back

theorem unlocks_inj (twenty : Twenty packages.getLisk32AddressFromAddress) (addressedOne : a.Addressed) (addressedTwo : b.Addressed)
    (same : a.dpos.unlocking.map (pendingUnlock packages) = b.dpos.unlocking.map (pendingUnlock packages)) :
    a.dpos.unlocking = b.dpos.unlocking := by
  apply map_exact same
  intro first inOne second inTwo equal
  obtain ⟨delegateAddress,amount,height⟩ := first
  obtain ⟨otherAddress,otherAmount,otherHeight⟩ := second
  obtain ⟨names,rfl,rfl⟩ := PendingUnlock.mk.inj equal
  cases twenty (addressedOne.2 _ inOne) (addressedTwo.2 _ inTwo) names
  rfl

theorem stakers_exact (packages : Packages) (account : Account) (tokenID : String) : createStakersArrayEntry packages account tokenID =
    if account.dpos.sentVotes ≠ [] ∨ account.dpos.unlocking ≠ [] then
      some ⟨account.address.bytes,getStakes packages account tokenID,account.dpos.unlocking.map (pendingUnlock packages)⟩
    else none := by
  unfold createStakersArrayEntry
  simp only [ne_eq,List.length_eq_zero_iff]

-- An account that stakes is found among the stakers again, and no other one.
theorem staker_carried (twenty : Twenty packages.getLisk32AddressFromAddress) (distinctTwo : two.Distinct)
    (same : one.stakers packages tokenOne = two.stakers packages tokenTwo) (inOne : a ∈ one.migrated) (inTwo : b ∈ two.migrated)
    (address : a.address.bytes = b.address.bytes) (addressedOne : a.Addressed) (addressedTwo : b.Addressed)
    (active : a.dpos.sentVotes ≠ [] ∨ a.dpos.unlocking ≠ []) :
    a.dpos.sentVotes.Perm b.dpos.sentVotes ∧ a.dpos.unlocking = b.dpos.unlocking := by
  have created := (stakers_exact packages a tokenOne).trans (if_pos active)
  have written := (staker_written packages one tokenOne).mpr ⟨a,inOne,_,created,rfl⟩
  rw [same] at written
  obtain ⟨other,migrated,row,again,entry⟩ := (staker_written packages two tokenTwo).mp written
  rw [stakers_exact] at again
  obtain ⟨_,shape⟩ := Option.ite_none_right_eq_some.mp again
  cases shape
  have names := twenty (one.migrated_length a inOne) (two.migrated_length other migrated) (congrArg StakerOf.address entry)
  have own : other = b := unique (two.migrated_distinct distinctTwo) migrated inTwo (names.symm.trans address)
  subst own
  exact ⟨stakes_inj twenty addressedOne addressedTwo (congrArg StakerOf.stakes entry),
    unlocks_inj twenty addressedOne addressedTwo (congrArg StakerOf.pendingUnlocks entry)⟩

theorem validator_written (packages : Packages) (snapshot : Snapshot) (validatorKeys : Record String String) (snapshotHeight : Int)
    (tokenID : String) {entry : ValidatorEntry} :
    entry ∈ snapshot.validators packages validatorKeys snapshotHeight tokenID ↔
    ∃ account ∈ snapshot.migrated, ∃ row, createValidatorsArrayEntry account validatorKeys snapshotHeight tokenID = some row ∧
      entry = validatorEntry packages row := by
  unfold Snapshot.validators Snapshot.validatorRows
  simp only [List.mem_map,mem_sortBy,List.mem_filterMap]
  constructor
  · intro given
    obtain ⟨row,⟨account,member,created⟩,rfl⟩ := given
    exact ⟨account,member,row,created,rfl⟩
  · intro given
    obtain ⟨account,member,row,created,rfl⟩ := given
    exact ⟨row,⟨account,member,created⟩,rfl⟩

-- A delegate is found among the validators again, and no other account.
theorem validator_carried (twenty : Twenty packages.getLisk32AddressFromAddress) (distinctTwo : two.Distinct)
    (same : one.validators packages keysOne heightOne tokenOne = two.validators packages keysTwo heightTwo tokenTwo)
    (inOne : a ∈ one.migrated) (inTwo : b ∈ two.migrated) (address : a.address.bytes = b.address.bytes)
    (named : a.dpos.delegate.username ≠ "") : a.dpos.delegate.username = b.dpos.delegate.username ∧
      a.dpos.delegate.pomHeights = b.dpos.delegate.pomHeights ∧
      a.dpos.delegate.consecutiveMissedBlocks = b.dpos.delegate.consecutiveMissedBlocks ∧
      a.dpos.delegate.lastForgedHeight = b.dpos.delegate.lastForgedHeight := by
  have written := (validator_written packages one keysOne heightOne tokenOne).mpr ⟨a,inOne,_,if_pos named,rfl⟩
  rw [same] at written
  obtain ⟨other,migrated,row,again,entry⟩ := (validator_written packages two keysTwo heightTwo tokenTwo).mp written
  obtain ⟨_,shape⟩ := Option.ite_none_right_eq_some.mp again
  cases shape
  have names := twenty (one.migrated_length a inOne) (two.migrated_length other migrated) (congrArg ValidatorEntryOf.address entry)
  have own : other = b := unique (two.migrated_distinct distinctTwo) migrated inTwo (names.symm.trans address)
  subst own
  exact ⟨congrArg ValidatorEntryOf.name entry,congrArg ValidatorEntryOf.reportMisbehaviorHeights entry,
    congrArg ValidatorEntryOf.consecutiveMissedBlocks entry,congrArg ValidatorEntryOf.lastGeneratedHeight entry⟩

end Rows

section Snapshots
variable {packages : Packages} {one two : Snapshot} {a b : Account}

-- Two snapshots that leave the same stores.
structure Alike (packages : Packages) (one two : Snapshot) : Prop where
  auth : one.authDataSubstore packages = two.authDataSubstore packages
  user : ∃ tokenOne tokenTwo, one.userSubstore packages tokenOne = two.userSubstore packages tokenTwo
  stakers : ∃ tokenOne tokenTwo, one.stakers packages tokenOne = two.stakers packages tokenTwo
  validators : ∃ keysOne heightOne tokenOne keysTwo heightTwo tokenTwo,
    one.validators packages keysOne heightOne tokenOne = two.validators packages keysTwo heightTwo tokenTwo
  legacy : sortedLegacyAccounts one.unregisteredAddresses = sortedLegacyAccounts two.unregisteredAddresses

theorem Alike.symm (alike : Alike packages one two) : Alike packages two one := by
  obtain ⟨auth,⟨userOne,userTwo,user⟩,⟨stakersOne,stakersTwo,stakers⟩,⟨k,h,t,l,i,u,validators⟩,legacy⟩ := alike
  exact ⟨auth.symm,⟨userTwo,userOne,user.symm⟩,⟨stakersTwo,stakersOne,stakers.symm⟩,⟨l,i,u,k,h,t,validators.symm⟩,legacy.symm⟩

-- What is asked of a snapshot: no address twice, and votes for addresses only.
structure Snapshot.Sound (snapshot : Snapshot) : Prop where
  distinct : snapshot.Distinct
  addressed : ∀ account ∈ snapshot.migrated, account.Addressed

theorem carried (twenty : Twenty packages.getLisk32AddressFromAddress) (alike : Alike packages one two) (soundOne : one.Sound) (soundTwo : two.Sound)
    (inOne : a ∈ one.migrated) : ∃ b ∈ two.migrated, a.Carried b := by
  obtain ⟨b,inTwo,address,sequence,signatures,mandatory,optional⟩ := auth_carried twenty alike.auth inOne
  obtain ⟨_,_,user⟩ := alike.user
  obtain ⟨_,_,stakers⟩ := alike.stakers
  obtain ⟨_,_,_,_,_,_,validators⟩ := alike.validators
  have addressedOne := soundOne.addressed a inOne
  have addressedTwo := soundTwo.addressed b inTwo
  have token := token_carried twenty soundOne.distinct soundTwo.distinct user inOne inTwo address
  have staked : a.dpos.sentVotes.Perm b.dpos.sentVotes ∧ a.dpos.unlocking = b.dpos.unlocking := by
    by_cases active : a.dpos.sentVotes ≠ [] ∨ a.dpos.unlocking ≠ []
    · exact staker_carried twenty soundTwo.distinct stakers inOne inTwo address addressedOne addressedTwo active
    · by_cases other : b.dpos.sentVotes ≠ [] ∨ b.dpos.unlocking ≠ []
      · have back := staker_carried twenty soundOne.distinct stakers.symm inTwo inOne address.symm addressedTwo addressedOne other
        exact ⟨back.1.symm,back.2.symm⟩
      · rw [not_or,not_not,not_not] at active other
        rw [active.1,active.2,other.1,other.2]
        exact ⟨.refl _,rfl⟩
  have username : a.dpos.delegate.username = b.dpos.delegate.username := by
    by_cases named : a.dpos.delegate.username ≠ ""
    · exact (validator_carried twenty soundTwo.distinct validators inOne inTwo address named).1
    · by_cases other : b.dpos.delegate.username ≠ ""
      · exact (validator_carried twenty soundOne.distinct validators.symm inTwo inOne address.symm other).1.symm
      · rw [not_not] at named other
        rw [named,other]
  exact ⟨b,inTwo,address,token,sequence,signatures,mandatory,optional,username,
    fun named => (validator_carried twenty soundTwo.distinct validators inOne inTwo address named).2,staked.1,staked.2⟩

theorem legacyAccount_injective : Function.Injective legacyAccount := by
  intro one two same
  obtain ⟨address,balance⟩ := one
  obtain ⟨otherAddress,otherBalance⟩ := two
  obtain ⟨rfl,balances⟩ := LegacyStoreEntryOf.mk.inj same
  cases decimal_inj.mp balances
  rfl

theorem legacyStoreEntry_injective : Function.Injective legacyStoreEntry := by
  intro one two same
  obtain ⟨address,balance⟩ := one
  obtain ⟨otherAddress,otherBalance⟩ := two
  obtain ⟨addresses,rfl⟩ := LegacyStoreEntryOf.mk.inj same
  cases toHex_inj.mp addresses
  rfl

theorem legacy_carried {accounts others : List UnregisteredAccount} (same : sortedLegacyAccounts accounts = sortedLegacyAccounts others) :
    accounts.Perm others := by
  have sorted := legacyStoreEntry_injective.list_map same
  have back := sortBy_perm (compareOn LegacyStoreEntryOf.address) (others.map legacyAccount)
  rw [← sorted] at back
  exact (List.map_perm_map_iff legacyAccount_injective).mp ((sortBy_perm _ _).symm.trans back)

theorem alike_emitted
    (same : one.emitted packages keysOne heightOne tokenOne beforeOne dataOne = two.emitted packages keysTwo heightTwo tokenTwo beforeTwo dataTwo) :
    Alike packages one two := by
  unfold Snapshot.emitted getAuthModuleEntry getPoSModuleEntry getTokenModuleEntry at same
  simp only [List.cons.injEq,GenesisAssetEntry.mk.injEq,GenesisData.auth.injEq,GenesisData.legacy.injEq,GenesisData.pos.injEq,
    GenesisData.token.injEq,PoSStoreEntry.mk.injEq,TokenStoreEntry.mk.injEq,true_and,and_true] at same
  obtain ⟨auth,legacy,⟨validators,stakers,_⟩,user,_⟩ := same
  exact ⟨auth,⟨_,_,user⟩,⟨_,_,stakers⟩,⟨_,_,_,_,_,_,validators⟩,legacy⟩

end Snapshots

-- Nothing else is lost: two databases whose genesis assets are the same have the
-- same accounts in some order, as far as accounts are carried, and the same
-- unregistered addresses.
theorem assets_lossless {packages : Packages} (twenty : Twenty packages.getLisk32AddressFromAddress) {dbOne dbTwo : Database} {one two : Snapshot}
    (readOne : readSnapshot packages dbOne = .ok one) (readTwo : readSnapshot packages dbTwo = .ok two) (soundOne : one.Sound) (soundTwo : two.Sound)
    (ranOne : outcome (CreateAsset.init packages roundsOne dbOne heightOne tokenOne pageSizeOne processOne) = .ok assets)
    (ranTwo : outcome (CreateAsset.init packages roundsTwo dbTwo heightTwo tokenTwo pageSizeTwo processTwo) = .ok assets) :
    Rearranged Account.Carried one.migrated two.migrated ∧ one.unregisteredAddresses.Perm two.unregisteredAddresses := by
  obtain ⟨keysOne,dataOne,_,_,emittedOne⟩ := init_emits _ _ _ _ _ _ ranOne readOne
  obtain ⟨keysTwo,dataTwo,_,_,emittedTwo⟩ := init_emits _ _ _ _ _ _ ranTwo readTwo
  have alike : Alike packages one two := alike_emitted (emittedOne.symm.trans emittedTwo)
  refine ⟨?_,legacy_carried alike.legacy⟩
  apply rearranged_of (fun _ _ carried => carried.address) (one.migrated_distinct soundOne.distinct) (two.migrated_distinct soundTwo.distinct)
  · exact fun a member => carried twenty alike soundOne soundTwo member
  · intro b member
    obtain ⟨a,inOne,back⟩ := carried twenty alike.symm soundTwo soundOne member
    exact ⟨a,inOne,back.symm⟩

namespace Sample

theorem sound : snapshot.Sound where
  distinct := distinct
  addressed := by
    unfold Account.Addressed
    decide +kernel

theorem shuffled_sound : shuffledSnapshot.Sound where
  distinct := reordered.distinctTwo
  addressed := by
    unfold Account.Addressed
    decide +kernel

theorem shuffled_ran : outcome (run shuffled .fresh) = .ok assets := by decide +kernel

end Sample

theorem assets_lossless_sample : Rearranged Account.Carried Sample.snapshot.migrated Sample.shuffledSnapshot.migrated ∧
    Sample.snapshot.unregisteredAddresses.Perm Sample.shuffledSnapshot.unregisteredAddresses :=
  assets_lossless Sample.lisk32_injective.injOn Sample.read Sample.shuffled_read Sample.sound Sample.shuffled_sound Sample.ran Sample.shuffled_ran

end LiskMigrator
