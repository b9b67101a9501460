import LiskMigrator.KeyScan

namespace LiskMigrator
open Text Collections Outcome

theorem mem_delegateSet (accounts : List Account) (member : String) : member ∈ delegateSet accounts ↔
    ∃ account ∈ accounts, account.dpos.delegate.username ≠ "" ∧ toHex account.address.bytes = member := by
  unfold delegateSet
  induction accounts using List.reverseRecOn with
  | nil => simp
  | append_singleton accounts account ih =>
    have last : (∃ a ∈ accounts ++ [account], a.dpos.delegate.username ≠ "" ∧ toHex a.address.bytes = member) ↔
        (∃ a ∈ accounts, a.dpos.delegate.username ≠ "" ∧ toHex a.address.bytes = member) ∨
          account.dpos.delegate.username ≠ "" ∧ toHex account.address.bytes = member := by
      simp only [List.mem_append,List.mem_singleton,or_and_right,exists_or,exists_eq_left]
    rw [last,← ih,List.foldl_append,List.foldl_cons,List.foldl_nil]
    by_cases named : account.dpos.delegate.username ≠ ""
    · rw [if_pos named,mem_add,and_iff_right named,@eq_comm _ member]
    · rw [if_neg named,iff_self_or]
      exact fun own => absurd own.1 named

section Keys
variable {packages : Packages} {accounts : List Account} {blockKeys txKeys : List Bytes}

theorem keyAddress_hex (packages : Packages) (key : Bytes) :
    keyAddress packages (toHex key) = toHex (packages.getAddressFromPublicKey key) := by
  unfold keyAddress
  rw [fromHex_toHex]

theorem keysOfTransactions_assign (packages : Packages) (delegates blockPublicKeySet txPublicKeySet : List String)
    (keys : Record String String) :
    keysOfTransactions packages delegates blockPublicKeySet txPublicKeySet keys =
      assign (keyAddress packages) id keys
        (txPublicKeySet.filter (fun key => key ∉ blockPublicKeySet ∧ keyAddress packages key ∈ delegates)) := by
  unfold keysOfTransactions assign
  induction txPublicKeySet generalizing keys with
  | nil => rfl
  | cons key rest ih =>
    rw [List.foldl_cons,ih]
    by_cases inBlocks : key ∈ blockPublicKeySet
    · simp [inBlocks]
    · by_cases delegate : keyAddress packages key ∈ delegates
      · simp [inBlocks,delegate]
      · simp [inBlocks,delegate]

-- The table of getValidatorKeys, for key sets in any order of iteration.
def keyTable (packages : Packages) (accounts : List Account) (blockKeys txKeys : List Bytes) : Record String String :=
  keysOfTransactions packages (delegateSet accounts) (blockKeys.map toHex) (txKeys.map toHex)
    (keysOfBlocks packages (blockKeys.map toHex))

theorem getValidatorKeys_table (blocks : getBlockPublicKeySet packages rounds db pageSize = .ok (blockKeys.map toHex))
    (transactions : getTransactionPublicKeySet packages rounds db pageSize = .ok (txKeys.map toHex)) :
    getValidatorKeys packages rounds accounts db pageSize = .ok (keyTable packages accounts blockKeys txKeys) := by
  unfold getValidatorKeys
  rw [blocks,transactions]
  rfl

def Occurs (blockKeys txKeys : List Bytes) (key : Bytes) : Prop := key ∈ blockKeys ∨ key ∈ txKeys

def SeparateKeys (packages : Packages) (blockKeys txKeys : List Bytes) : Prop :=
  Set.InjOn packages.getAddressFromPublicKey {key | Occurs blockKeys txKeys key}

theorem keysOfBlocks_known (separate : SeparateKeys packages blockKeys txKeys) (known : key ∈ blockKeys) :
    (keysOfBlocks packages (blockKeys.map toHex)).get (toHex (packages.getAddressFromPublicKey key)) = some (toHex key) := by
  have agreed : ∀ other ∈ blockKeys.map toHex, keyAddress packages other = keyAddress packages (toHex key) →
      id other = id (toHex key) := by
    intro other member same
    obtain ⟨otherKey,inBlocks,rfl⟩ := List.mem_map.mp member
    rw [keyAddress_hex,keyAddress_hex,toHex_inj] at same
    exact congrArg toHex (separate (.inl inBlocks) (.inl known) same)
  rw [← keyAddress_hex]
  exact assign_agreed [] _ (List.mem_map_of_mem known) agreed

theorem keysOfBlocks_unknown (unknown : ∀ key ∈ blockKeys, packages.getAddressFromPublicKey key ≠ address) :
    (keysOfBlocks packages (blockKeys.map toHex)).get (toHex address) = none := by
  apply assign_untouched [] _
  intro other member
  obtain ⟨key,inBlocks,rfl⟩ := List.mem_map.mp member
  rw [keyAddress_hex]
  exact fun same => unknown key inBlocks (toHex_inj.mp same)

-- A key is found under its own address, whichever of the sets it occurs in.
theorem keyTable_known (separate : SeparateKeys packages blockKeys txKeys) (occurs : Occurs blockKeys txKeys key)
    (account : Account) (member : account ∈ accounts) (named : account.dpos.delegate.username ≠ "")
    (own : packages.getAddressFromPublicKey key = account.address.bytes) :
    (keyTable packages accounts blockKeys txKeys).get (toHex account.address.bytes) = some (toHex key) := by
  unfold keyTable
  rw [keysOfTransactions_assign]
  by_cases inBlocks : key ∈ blockKeys
  · rw [← own,assign_untouched]
    · exact keysOfBlocks_known separate inBlocks
    · intro other kept same
      obtain ⟨inSet,conditions⟩ := List.mem_filter.mp kept
      obtain ⟨otherKey,inTransactions,rfl⟩ := List.mem_map.mp inSet
      rw [keyAddress_hex,toHex_inj] at same
      cases separate (.inr inTransactions) (.inl inBlocks) same
      exact (of_decide_eq_true conditions).1 (List.mem_map_of_mem inBlocks)
  · have inTransactions : key ∈ txKeys := by
      rcases occurs with inBlocks' | inTransactions
      · exact absurd inBlocks' inBlocks
      · exact inTransactions
    have delegate : toHex account.address.bytes ∈ delegateSet accounts :=
      (mem_delegateSet accounts _).mpr ⟨account,member,named,rfl⟩
    have fresh : toHex key ∉ blockKeys.map toHex := by
      intro inSet
      obtain ⟨otherKey,present,same⟩ := List.mem_map.mp inSet
      exact inBlocks (toHex_inj.mp same ▸ present)
    have kept : toHex key ∈ (txKeys.map toHex).filter (fun key =>
        key ∉ blockKeys.map toHex ∧ keyAddress packages key ∈ delegateSet accounts) := by
      apply List.mem_filter.mpr
      refine ⟨List.mem_map_of_mem inTransactions,decide_eq_true ⟨fresh,?_⟩⟩
      rwa [keyAddress_hex,own]
    have agreed : ∀ other ∈ (txKeys.map toHex).filter (fun key =>
        key ∉ blockKeys.map toHex ∧ keyAddress packages key ∈ delegateSet accounts),
        keyAddress packages other = keyAddress packages (toHex key) → id other = id (toHex key) := by
      intro other present same
      obtain ⟨otherKey,inSet,rfl⟩ := List.mem_map.mp (List.mem_filter.mp present).1
      rw [keyAddress_hex,keyAddress_hex,toHex_inj] at same
      exact congrArg toHex (separate (.inr inSet) (.inr inTransactions) same)
    have found := assign_agreed (keysOfBlocks packages (blockKeys.map toHex)) _ kept agreed
    rwa [keyAddress_hex,own] at found

theorem keyTable_unknown (unknown : ∀ key, Occurs blockKeys txKeys key → packages.getAddressFromPublicKey key ≠ address) :
    (keyTable packages accounts blockKeys txKeys).get (toHex address) = none := by
  unfold keyTable
  rw [keysOfTransactions_assign,assign_untouched]
  · exact keysOfBlocks_unknown (fun key inBlocks => unknown key (.inl inBlocks))
  · intro other kept
    obtain ⟨key,inTransactions,rfl⟩ := List.mem_map.mp (List.mem_filter.mp kept).1
    rw [keyAddress_hex]
    exact fun same => unknown key (.inr inTransactions) (toHex_inj.mp same)

theorem toHex_empty {key : Bytes} : toHex key = "" ↔ key = [] := by
  have empty : toHex [] = "" := rfl
  rw [← empty,toHex_inj]

-- What an account that is a delegate gets: its own key, if that is known.
theorem generatorKeyOf_own (separate : SeparateKeys packages blockKeys txKeys) (account : Account)
    (member : account ∈ accounts) (named : account.dpos.delegate.username ≠ "") :
    (∀ key, Occurs blockKeys txKeys key → key ≠ [] → packages.getAddressFromPublicKey key = account.address.bytes →
      generatorKeyOf (keyTable packages accounts blockKeys txKeys) (toHex account.address.bytes) = toHex key) ∧
    ((∀ key, Occurs blockKeys txKeys key → key ≠ [] → packages.getAddressFromPublicKey key ≠ account.address.bytes) →
      generatorKeyOf (keyTable packages accounts blockKeys txKeys) (toHex account.address.bytes) = invalidEd25519Key) := by
  unfold generatorKeyOf
  constructor
  · intro key occurs filled own
    rw [keyTable_known separate occurs account member named own]
    exact if_neg (fun same => filled (toHex_empty.mp same))
  · intro unknown
    by_cases genesis : Occurs blockKeys txKeys [] ∧ packages.getAddressFromPublicKey [] = account.address.bytes
    · rw [keyTable_known separate genesis.1 account member named genesis.2]
      rfl
    · rw [keyTable_unknown]
      intro key occurs own
      cases key with
      | nil => exact genesis ⟨occurs,own⟩
      | cons byte rest => exact unknown (byte :: rest) occurs (List.cons_ne_nil _ _) own

end Keys

theorem validators_own_keys {packages : Packages} {accounts : List Account} {blockKeys txKeys : List Bytes}
    (blocks : getBlockPublicKeySet packages rounds db pageSize = .ok (blockKeys.map toHex))
    (transactions : getTransactionPublicKeySet packages rounds db pageSize = .ok (txKeys.map toHex))
    (separate : SeparateKeys packages blockKeys txKeys) :
    ∃ validatorKeys, getValidatorKeys packages rounds accounts db pageSize = .ok validatorKeys ∧
      ∀ account ∈ accounts, account.dpos.delegate.username ≠ "" → ∀ snapshotHeight tokenID,
        ∃ entry, createValidatorsArrayEntry account validatorKeys snapshotHeight tokenID = some entry ∧
          (∀ key, Occurs blockKeys txKeys key → key ≠ [] → packages.getAddressFromPublicKey key = account.address.bytes →
            entry.generatorKey = toHex key) ∧
          ((∀ key, Occurs blockKeys txKeys key → key ≠ [] → packages.getAddressFromPublicKey key ≠ account.address.bytes) →
            entry.generatorKey = invalidEd25519Key) := by
  refine ⟨_,getValidatorKeys_table blocks transactions,?_⟩
  intro account member named snapshotHeight tokenID
  refine ⟨_,if_pos named,?_⟩
  exact generatorKeyOf_own separate account member named

namespace Sample

theorem blocks_scanned : getBlockPublicKeySet packages 4 database 1 = .ok ([delegateKey].map toHex) := by decide +kernel

theorem transactions_scanned : getTransactionPublicKeySet packages 4 database 1 = .ok ([voterKey].map toHex) := by
  decide +kernel

theorem separate : SeparateKeys packages [delegateKey] [voterKey] := by
  have occurring : ∀ key, Occurs [delegateKey] [voterKey] key → key = delegateKey ∨ key = voterKey := by
    simp [Occurs]
  intro one first two second same
  have different : packages.getAddressFromPublicKey delegateKey ≠ packages.getAddressFromPublicKey voterKey := by
    decide +kernel
  rcases occurring one first with rfl | rfl <;> rcases occurring two second with rfl | rfl
  · rfl
  · exact absurd same different
  · exact absurd same.symm different
  · rfl

end Sample

theorem validators_own_keys_sample : ∃ validatorKeys,
    getValidatorKeys Sample.packages 4 [Sample.delegateAccount] Sample.database 1 = .ok validatorKeys ∧
    ∀ account ∈ [Sample.delegateAccount], account.dpos.delegate.username ≠ "" → ∀ snapshotHeight tokenID,
      ∃ entry, createValidatorsArrayEntry account validatorKeys snapshotHeight tokenID = some entry ∧
        (∀ key, Occurs [Sample.delegateKey] [Sample.voterKey] key → key ≠ [] →
          Sample.packages.getAddressFromPublicKey key = account.address.bytes → entry.generatorKey = toHex key) ∧
        ((∀ key, Occurs [Sample.delegateKey] [Sample.voterKey] key → key ≠ [] →
          Sample.packages.getAddressFromPublicKey key ≠ account.address.bytes) → entry.generatorKey = invalidEd25519Key) :=
  validators_own_keys Sample.blocks_scanned Sample.transactions_scanned Sample.separate

end LiskMigrator
