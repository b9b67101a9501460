import LiskMigrator.Snapshot

namespace LiskMigrator
open Text Sorting Collections Outcome

-- The genesis assets as functions of the snapshot: the reference the imperative
-- run is compared with. `before` is the supply that earlier calls have left.
namespace Snapshot
section Emission
variable (packages : Packages) (snapshot : Snapshot) (validatorKeys : Record String String)
  (snapshotHeight : Int) (tokenID : String)

def legacyAmount : Nat := snapshot.reserveBalance packages+snapshot.unregistered

def userSubstoreRows : List UserSubstoreEntryBuffer :=
  snapshot.migrated.filterMap (fun account => createUserSubstoreArrayEntry packages account tokenID) ++
    [createLegacyReserveAccount packages (snapshot.reserve packages) (snapshot.legacyAmount packages) tokenID]

def userSubstore : List UserSubstoreEntry :=
  (sortBy userSubstoreComparator (snapshot.userSubstoreRows packages tokenID)).map (userSubstoreEntry packages)

def validatorRows : List ValidatorEntryBuffer :=
  snapshot.migrated.filterMap (fun account => createValidatorsArrayEntry account validatorKeys snapshotHeight tokenID)

def validators : List ValidatorEntry :=
  (sortBy (compareOn ValidatorEntryOf.address) (snapshot.validatorRows validatorKeys snapshotHeight tokenID)).map
    (validatorEntry packages)

def stakerRows : List StakerBuffer :=
  snapshot.migrated.filterMap (fun account => createStakersArrayEntry packages account tokenID)

def stakers : List Staker :=
  (sortBy (compareOn StakerOf.address) (snapshot.stakerRows packages tokenID)).map (stakerEntry packages)

def authRows : List AuthStoreEntryBuffer := snapshot.migrated.map (fun account => (getAuthModuleEntryBuffer account).2)

def authDataSubstore : List AuthStoreEntry :=
  (sortBy (compareOn AuthStoreEntryOf.address) snapshot.authRows).map (authStoreEntry packages)

def totalSupply (before : Nat) : Nat := before+snapshot.held+snapshot.legacyAmount packages

def emitted (before : Nat) (genesisData : GenesisDataEntry) : List GenesisAssetEntry :=
  [getAuthModuleEntry (snapshot.authDataSubstore packages),
    getInteropModuleEntry,
    ⟨moduleNameLegacy,.legacy (sortedLegacyAccounts snapshot.unregisteredAddresses)⟩,
    getPoSModuleEntry (snapshot.validators packages validatorKeys snapshotHeight tokenID)
      (snapshot.stakers packages tokenID) genesisData,
    getTokenModuleEntry (snapshot.userSubstore packages tokenID)
      [⟨tokenID,decimal (snapshot.totalSupply packages before)⟩] [] []]

end Emission
end Snapshot

-- Only the key lists differ after getAuthModuleEntryBuffer, and none of the
-- later steps of the loop reads them.
@[simp] theorem sortKeys_user (packages : Packages) (account : Account) (tokenID : String) :
    createUserSubstoreArrayEntry packages (sortKeys account) tokenID = createUserSubstoreArrayEntry packages account tokenID := rfl

@[simp] theorem sortKeys_locked (account : Account) : getLockedBalances (sortKeys account) = getLockedBalances account := rfl

@[simp] theorem sortKeys_validator (account : Account) (validatorKeys : Record String String) (snapshotHeight : Int)
    (tokenID : String) : createValidatorsArrayEntry (sortKeys account) validatorKeys snapshotHeight tokenID =
      createValidatorsArrayEntry account validatorKeys snapshotHeight tokenID := rfl

@[simp] theorem sortKeys_staker (packages : Packages) (account : Account) (tokenID : String) :
    createStakersArrayEntry packages (sortKeys account) tokenID = createStakersArrayEntry packages account tokenID := rfl

theorem collected_supply (account : Account) (total : Nat) :
    (getLockedBalances account).foldl (fun accumulator lockedBalance => accumulator+bigInt lockedBalance.amount) total =
      total+account.staked := by
  rw [getLockedBalances_exact]
  split
  · simp [bigInt]
  · rename_i none
    have zero : account.staked = 0 := by omega
    simp [zero]

section Loop
variable (packages : Packages) (validatorKeys : Record String String) (snapshotHeight : Int) (tokenID : String)

theorem collectAccount_exact (collected : Collected) (account : Account) :
    collectAccount packages validatorKeys snapshotHeight tokenID collected account =
      { accounts := collected.accounts ++ [sortKeys account]
        authSubstoreEntries := collected.authSubstoreEntries ++ [(getAuthModuleEntryBuffer account).2]
        userSubstoreEntries := collected.userSubstoreEntries ++ (createUserSubstoreArrayEntry packages account tokenID).toList
        totalLSKSupply := collected.totalLSKSupply+account.holding
        validators := collected.validators ++
          (createValidatorsArrayEntry account validatorKeys snapshotHeight tokenID).toList
        stakers := collected.stakers ++ (createStakersArrayEntry packages account tokenID).toList } := by
  have moved : (getAuthModuleEntryBuffer account).1 = sortKeys account := rfl
  have balance : (sortKeys account).token.balance = account.token.balance := rfl
  simp only [collectAccount,moved,balance,sortKeys_user,sortKeys_locked,sortKeys_validator,sortKeys_staker,
    collected_supply,Account.holding,Nat.add_assoc]

theorem filterMap_snoc (f : α → Option β) (items : List α) (item : α) :
    (items ++ [item]).filterMap f = items.filterMap f ++ (f item).toList := by
  rw [List.filterMap_append]
  cases kept : f item <;> simp [kept]

theorem collect_exact (accounts : List Account) (before : Nat) :
    accounts.foldl (collectAccount packages validatorKeys snapshotHeight tokenID) (.start before) =
      { accounts := accounts.map sortKeys
        authSubstoreEntries := accounts.map (fun account => (getAuthModuleEntryBuffer account).2)
        userSubstoreEntries := accounts.filterMap (fun account => createUserSubstoreArrayEntry packages account tokenID)
        totalLSKSupply := before+(accounts.map Account.holding).sum
        validators := accounts.filterMap (fun account =>
          createValidatorsArrayEntry account validatorKeys snapshotHeight tokenID)
        stakers := accounts.filterMap (fun account => createStakersArrayEntry packages account tokenID) } := by
  induction accounts using List.reverseRecOn with
  | nil => rfl
  | append_singleton accounts account ih =>
    rw [List.foldl_append,ih,List.foldl_cons,List.foldl_nil,collectAccount_exact]
    simp only [List.map_append,List.map_cons,List.map_nil,filterMap_snoc,List.sum_append,List.sum_cons,List.sum_nil,
      Nat.add_zero,Nat.add_assoc]

end Loop

-- Everything a call reads before its loop, and everything it does after it.
def prepare (packages : Packages) (rounds : Nat) (db : Database) (pageSize : Int) :
    Except Failure (Snapshot × Record String String) := do
  let snapshot ← readSnapshot packages db
  let validatorKeys ← getValidatorKeys packages rounds snapshot.migrated db pageSize
  return (snapshot,validatorKeys)

def conclude (packages : Packages) (db : Database) (snapshotHeight : Int) (snapshot : Snapshot) :
    Except Failure GenesisDataEntry := do
  let encoded ← db.get (chainStateKey chainStateDelegateVoteWeights)
  let voteWeights ← packages.codec.voteWeights encoded
  createGenesisDataObj packages (snapshot.migrated.map sortKeys)
    (placeVoteWeights snapshot.accounts.length voteWeights) snapshotHeight

theorem legacy_run (packages : Packages) (encoded : Bytes) (reserve : Option Account) (process : Process) :
    getLegacyModuleEntry packages encoded reserve process =
      match packages.codec.unregisteredAddresses encoded with
      | .error e => .error e { process with legacyReserveAmount := reserve.elim 0 (fun account => account.token.balance) }
      | .ok unregisteredAddresses => .ok ⟨moduleNameLegacy,.legacy (sortedLegacyAccounts unregisteredAddresses)⟩
          { process with legacyReserveAmount := reserve.elim 0 (fun account => account.token.balance)+
              (unregisteredAddresses.map UnregisteredAccount.balance).sum } := by
  have added : ∀ (accounts : List UnregisteredAccount) (process : Process),
      accounts.foldl (fun process account =>
        { process with legacyReserveAmount := process.legacyReserveAmount+account.balance }) process =
      { process with legacyReserveAmount := process.legacyReserveAmount+(accounts.map UnregisteredAccount.balance).sum } := by
    intro accounts
    induction accounts with
    | nil => intro process; rfl
    | cons account rest ih =>
      intro process
      rw [List.foldl_cons,ih,List.map_cons,List.sum_cons]
      simp only [Nat.add_assoc]
  cases decoded : packages.codec.unregisteredAddresses encoded with
  | error e => simp [getLegacyModuleEntry,step_bind,attempt,decoded,step_modify]
  | ok unregisteredAddresses =>
    simp [getLegacyModuleEntry,step_bind,attempt,decoded,step_modify,added,pure,EStateM.pure]

-- The assets are written in the order of their module names.
theorem modules_sorted (legacy auth token pos interoperability : GenesisData) :
    sortBy (fun a b : GenesisAssetEntry => localeCompare a.module b.module)
      [⟨moduleNameLegacy,legacy⟩,⟨moduleNameAuth,auth⟩,⟨moduleNameToken,token⟩,⟨moduleNamePos,pos⟩,
        ⟨moduleNameInteroperability,interoperability⟩] =
      [⟨moduleNameAuth,auth⟩,⟨moduleNameInteroperability,interoperability⟩,⟨moduleNameLegacy,legacy⟩,
        ⟨moduleNamePos,pos⟩,⟨moduleNameToken,token⟩] := by
  simp +decide [sortBy,Before]

theorem prepare_parts (prepared : prepare packages rounds db pageSize = .ok (snapshot,validatorKeys)) :
    readSnapshot packages db = .ok snapshot ∧
      getValidatorKeys packages rounds snapshot.migrated db pageSize = .ok validatorKeys := by
  obtain ⟨read,reading,rest⟩ := bind_ok.mp prepared
  obtain ⟨keys,scanned,same⟩ := bind_ok.mp rest
  cases same
  exact ⟨reading,scanned⟩

theorem readSnapshot_parts (read : readSnapshot packages db = .ok snapshot) :
    ∃ encoded, db.get (chainStateKey chainStateUnregisteredAddresses) = .ok encoded ∧
      readAccounts packages db = .ok snapshot.accounts ∧
      packages.codec.unregisteredAddresses encoded = .ok snapshot.unregisteredAddresses := by
  obtain ⟨encoded,got,rest⟩ := bind_ok.mp read
  obtain ⟨accounts,scanned,rest⟩ := bind_ok.mp rest
  obtain ⟨unregisteredAddresses,decoded,same⟩ := bind_ok.mp rest
  cases same
  exact ⟨encoded,got,scanned,decoded⟩

theorem legacy_runs (decoded : packages.codec.unregisteredAddresses encoded = .ok unregisteredAddresses)
    (reserve : Option Account) (process : Process) :
    getLegacyModuleEntry packages encoded reserve process =
      .ok ⟨moduleNameLegacy,.legacy (sortedLegacyAccounts unregisteredAddresses)⟩
        ⟨process.totalLSKSupply,reserve.elim 0 (fun account => account.token.balance)+
          (unregisteredAddresses.map UnregisteredAccount.balance).sum⟩ := by
  rw [legacy_run,decoded]

theorem legacy_fails {failure : Failure} (decoded : packages.codec.unregisteredAddresses encoded = .error failure)
    (reserve : Option Account) (process : Process) :
    getLegacyModuleEntry packages encoded reserve process =
      .error failure ⟨process.totalLSKSupply,reserve.elim 0 (fun account => account.token.balance)⟩ := by
  rw [legacy_run,decoded]

theorem reserve_read (process : Process) : getLegacyReserveAmount process = .ok process.legacyReserveAmount process := rfl

theorem collects (packages : Packages) (validatorKeys : Record String String) (snapshotHeight : Int) (tokenID : String)
    (accounts : List Account) (process : Process) :
    collectAccounts packages validatorKeys snapshotHeight tokenID accounts process =
      .ok (accounts.foldl (collectAccount packages validatorKeys snapshotHeight tokenID) (.start process.totalLSKSupply))
        ⟨process.totalLSKSupply+(accounts.map Account.holding).sum,process.legacyReserveAmount⟩ := by
  unfold collectAccounts
  rw [step_next _ (step_get process),step_next _ (step_set _ process)]
  simp only [pure,EStateM.pure,collect_exact]

section Run
variable (packages : Packages) (rounds : Nat) (db : Database) (snapshotHeight : Int) (tokenID : String) (pageSize : Int)

-- A call that cannot read all its inputs has not touched the supply yet.
theorem init_refused (process : Process) {failure : Failure} (failed : prepare packages rounds db pageSize = .error failure) :
    ∃ amount, CreateAsset.init packages rounds db snapshotHeight tokenID pageSize process =
      .error failure ⟨process.totalLSKSupply,amount⟩ := by
  unfold CreateAsset.init
  unfold prepare readSnapshot at failed
  cases got : db.get (chainStateKey chainStateUnregisteredAddresses) with
  | error e =>
    rw [got] at failed
    cases failed
    exact ⟨_,step_fails _ (attempt_fails rfl process)⟩
  | ok encoded =>
    rw [step_next _ (attempt_runs rfl process)]
    cases scanned : readAccounts packages db with
    | error e =>
      rw [got,scanned] at failed
      cases failed
      exact ⟨_,step_fails _ (attempt_fails rfl process)⟩
    | ok accounts =>
      rw [step_next _ (attempt_runs rfl process)]
      cases decoded : packages.codec.unregisteredAddresses encoded with
      | error e =>
        simp only [got,scanned,decoded,bind,Except.bind] at failed
        cases failed
        exact ⟨_,step_fails _ (legacy_fails decoded _ process)⟩
      | ok unregisteredAddresses =>
        rw [step_next _ (legacy_runs decoded _ process),step_next _ (reserve_read _)]
        simp only [got,scanned,decoded,bind,Except.bind,pure,Except.pure,Snapshot.migrated] at failed
        split at failed
        · rename_i e keysFailed
          cases failed
          exact ⟨_,step_fails _ (attempt_fails keysFailed _)⟩
        · cases failed

-- A call that has read its inputs adds what the accounts hold to the supply,
-- and keeps it there whether or not the last steps succeed.
theorem init_prepared (process : Process)
    (prepared : prepare packages rounds db pageSize = .ok (snapshot,validatorKeys)) :
    CreateAsset.init packages rounds db snapshotHeight tokenID pageSize process =
      match conclude packages db snapshotHeight snapshot with
      | .error failure => .error failure ⟨process.totalLSKSupply+snapshot.held,snapshot.legacyAmount packages⟩
      | .ok genesisData =>
        .ok (snapshot.emitted packages validatorKeys snapshotHeight tokenID process.totalLSKSupply genesisData)
          ⟨process.totalLSKSupply+snapshot.held,snapshot.legacyAmount packages⟩ := by
  obtain ⟨read,scanned⟩ := prepare_parts prepared
  obtain ⟨encoded,got,reading,decoded⟩ := readSnapshot_parts read
  unfold Snapshot.migrated at scanned
  unfold CreateAsset.init conclude
  rw [step_next _ (attempt_runs got process),step_next _ (attempt_runs reading process),
    step_next _ (legacy_runs decoded _ process),step_next _ (reserve_read _),step_next _ (attempt_runs scanned _),
    step_next _ (collects packages validatorKeys snapshotHeight tokenID _ _)]
  cases gotWeights : db.get (chainStateKey chainStateDelegateVoteWeights) with
  | error e => exact step_fails _ (attempt_fails rfl _)
  | ok encodedVoteWeights =>
    rw [step_next _ (attempt_runs rfl _)]
    simp only [bind,Except.bind]
    cases decodedWeights : packages.codec.voteWeights encodedVoteWeights with
    | error e => exact step_fails _ (attempt_fails rfl _)
    | ok voteWeights =>
      apply (step_next _ (attempt_runs rfl _)).trans
      simp only [collect_exact]
      cases concluded : createGenesisDataObj packages (snapshot.migrated.map sortKeys)
          (placeVoteWeights snapshot.accounts.length voteWeights) snapshotHeight with
      | error e => exact step_fails _ (attempt_fails concluded _)
      | ok genesisData =>
        apply (step_next _ (attempt_runs concluded _)).trans
        exact congrArg (fun assets => EStateM.Result.ok assets _) (modules_sorted _ _ _ _ _)

theorem init_exact (process : Process) :
    outcome (CreateAsset.init packages rounds db snapshotHeight tokenID pageSize process) = (do
      let (snapshot,validatorKeys) ← prepare packages rounds db pageSize
      let genesisData ← conclude packages db snapshotHeight snapshot
      return snapshot.emitted packages validatorKeys snapshotHeight tokenID process.totalLSKSupply genesisData) := by
  cases prepared : prepare packages rounds db pageSize with
  | error failure =>
    obtain ⟨_,refused⟩ := init_refused packages rounds db snapshotHeight tokenID pageSize process prepared
    rw [refused]
    rfl
  | ok read =>
    rw [init_prepared packages rounds db snapshotHeight tokenID pageSize process prepared]
    simp only [bind,Except.bind]
    cases conclude packages db snapshotHeight read.1 <;> rfl

theorem init_ok (ran : outcome (CreateAsset.init packages rounds db snapshotHeight tokenID pageSize process) = .ok assets) :
    ∃ snapshot validatorKeys genesisData, prepare packages rounds db pageSize = .ok (snapshot,validatorKeys) ∧
      conclude packages db snapshotHeight snapshot = .ok genesisData ∧
      assets = snapshot.emitted packages validatorKeys snapshotHeight tokenID process.totalLSKSupply genesisData := by
  rw [init_exact] at ran
  obtain ⟨⟨snapshot,validatorKeys⟩,prepared,ran⟩ := bind_ok.mp ran
  obtain ⟨genesisData,concluded,same⟩ := bind_ok.mp ran
  cases same
  exact ⟨snapshot,validatorKeys,genesisData,prepared,concluded,rfl⟩

theorem init_emits (ran : outcome (CreateAsset.init packages rounds db snapshotHeight tokenID pageSize process) = .ok assets)
    (read : readSnapshot packages db = .ok snapshot) :
    ∃ validatorKeys genesisData, getValidatorKeys packages rounds snapshot.migrated db pageSize = .ok validatorKeys ∧
      conclude packages db snapshotHeight snapshot = .ok genesisData ∧
      assets = snapshot.emitted packages validatorKeys snapshotHeight tokenID process.totalLSKSupply genesisData := by
  obtain ⟨other,validatorKeys,genesisData,prepared,concluded,rfl⟩ := init_ok packages rounds db snapshotHeight tokenID pageSize ran
  obtain ⟨again,scanned⟩ := prepare_parts prepared
  cases read.symm.trans again
  exact ⟨validatorKeys,genesisData,scanned,concluded,rfl⟩

end Run

-- The stores of the genesis assets, wherever their module stands in the list.
namespace GenesisData

def legacyAccounts : GenesisData → List LegacyStoreEntry
  | .legacy accounts => accounts
  | _ => []

def authDataSubstore : GenesisData → List AuthStoreEntry
  | .auth entries => entries
  | _ => []

def userSubstore : GenesisData → List UserSubstoreEntry
  | .token store => store.userSubstore
  | _ => []

def supplySubstore : GenesisData → List SupplySubstoreEntry
  | .token store => store.supplySubstore
  | _ => []

def validators : GenesisData → List ValidatorEntry
  | .pos store => store.validators
  | _ => []

def stakers : GenesisData → List Staker
  | .pos store => store.stakers
  | _ => []

end GenesisData

def stored (store : GenesisData → List α) (assets : List GenesisAssetEntry) : List α :=
  assets.flatMap (fun asset => store asset.data)

section Stores
variable {packages : Packages} {snapshot : Snapshot} {validatorKeys : Record String String} {snapshotHeight : Int}
  {tokenID : String} {before : Nat} {genesisData : GenesisDataEntry}

@[simp] theorem stored_emitted (store : GenesisData → List α) :
    stored store (snapshot.emitted packages validatorKeys snapshotHeight tokenID before genesisData) =
      store (.auth (snapshot.authDataSubstore packages)) ++ store getInteropModuleEntry.data ++
      store (.legacy (sortedLegacyAccounts snapshot.unregisteredAddresses)) ++
      store (.pos ⟨snapshot.validators packages validatorKeys snapshotHeight tokenID,
        snapshot.stakers packages tokenID,genesisData⟩) ++
      store (.token ⟨snapshot.userSubstore packages tokenID,[⟨tokenID,decimal (snapshot.totalSupply packages before)⟩],[],[]⟩) := by
  simp [stored,Snapshot.emitted,getAuthModuleEntry,getPoSModuleEntry,getTokenModuleEntry]

end Stores
end LiskMigrator
