import LiskMigrator.Increment
import LiskMigrator.KeyScan
import LiskMigrator.Library.Keyed

namespace LiskMigrator
open Std Text Sorting Collections PrefixCode Paging Keyed Numerals Outcome

-- What a database key makes of bytes: their Latin-1 text, in UTF-8.
def encodeKey (bytes : Bytes) : Bytes := bufferFrom (keyString bytes)

theorem compare_encodeKey (a b : Bytes) : compare (encodeKey a) (encodeKey b) = compare a b := by
  unfold encodeKey keyString
  rw [bufferFrom_latin1,bufferFrom_latin1,latin1_letters.compare_encoded]

theorem encodeKey_injective : Function.Injective encodeKey := by
  intro a b same
  have compared := compare_encodeKey a b
  rw [same,ReflOrd.compare_self] at compared
  exact LawfulEqOrd.eq_of_compare compared.symm

theorem encodeKey_splits (less : compare a b = .lt) (length : a.length = b.length) : Splits (encodeKey a) (encodeKey b) := by
  unfold encodeKey keyString
  rw [bufferFrom_latin1,bufferFrom_latin1]
  exact latin1_letters.encoded (splits_of_length length less)

theorem encodeKey_whole (length : a.length = b.length) (before : encodeKey a <+: encodeKey b) : a = b := by
  cases compared : compare a b with
  | lt => exact absurd before (encodeKey_splits compared length).apart.1
  | eq => exact LawfulEqOrd.eq_of_compare compared
  | gt => exact absurd before (encodeKey_splits (OrientedCmp.lt_of_gt compared) length.symm).apart.2

-- A key of the database is this encoding behind a prefix.
theorem databaseKey_encode (prefixKey : String) (id : Bytes) :
    databaseKey prefixKey id = bufferFrom (prefixKey ++ ":") ++ encodeKey id := bufferFrom_append _ _

theorem databaseKey_injective (prefixKey : String) : Function.Injective (databaseKey prefixKey) := by
  intro one two same
  rw [databaseKey_encode,databaseKey_encode] at same
  exact encodeKey_injective (List.append_cancel_left same)

-- The four bytes of a number below 2^32.
def heightBytes (n : Nat) : Bytes := [n / 2^24,n / 2^16,n / 2^8,n].map UInt8.ofNat

theorem heightBytes_value (small : n < 2^32) : bigEndian (heightBytes n) = n := by
  have part (m : Nat) : (UInt8.ofNat m).toNat = m % 256 := UInt8.toNat_ofNat'
  have split : bigEndian (heightBytes n) =
      ((n / 2^24 % 256*256+n / 2^16 % 256)*256+n / 2^8 % 256)*256+n % 256 := by
    simp only [bigEndian,value,heightBytes,List.map_cons,List.map_nil,List.reverse_cons,List.reverse_nil,List.nil_append,
      List.cons_append,Nat.ofDigits_cons,Nat.ofDigits_nil,part]
    omega
  rw [split]
  omega

theorem formatInt_bytes {n : Nat} (small : n < 2^32) : formatInt n = .ok (latin1 (heightBytes n)) := by
  have below : (n : Int) < 2^32 := by exact_mod_cast small
  unfold formatInt
  rw [if_neg (by omega),if_neg (by omega)]
  rfl

-- A block is stored under its height: the keys are in the order of the heights.
theorem compare_height {m n : Nat} (smallM : m < 2^32) (smallN : n < 2^32) (prefixKey : String) :
    compare (bufferFrom (prefixKey ++ latin1 (heightBytes m))) (bufferFrom (prefixKey ++ latin1 (heightBytes n))) = compare m n := by
  have encoded := compare_encodeKey (heightBytes m) (heightBytes n)
  have length : (heightBytes m).length = (heightBytes n).length := rfl
  unfold encodeKey keyString at encoded
  rw [bufferFrom_append,bufferFrom_append,compare_append,encoded,compare_value byte_system length]
  change compare (bigEndian (heightBytes m)) (bigEndian (heightBytes n)) = _
  rw [heightBytes_value smallM,heightBytes_value smallN]

-- An account, whichever object its address is.
def Account.record (account : Account) : Account := { account with address := { account.address with ref := 0 } }

theorem placed_records (accounts : List Account) : (placeAccounts accounts).map Account.record = accounts.map Account.record := by
  apply List.ext_getElem?
  intro i
  simp only [placeAccounts,List.getElem?_map,List.getElem?_mapIdx,Option.map_map]
  rfl

-- Every account record is stored under its own address.
def AccountRecords (packages : Packages) (entries : List Entry) : Prop :=
  ∀ entry ∈ entries, Under dbKeyAccountsAddress entry.key → ∃ account, packages.codec.account entry.value = .ok account ∧
    entry.key = accountKey account.address.bytes

-- The accounts with a binary address, each once, in the order of the addresses.
structure AccountScan (packages : Packages) (entries : List Entry) (accounts : List Account) : Prop where
  ordered : Ascending compare (accounts.map (fun account => account.address.bytes))
  exact : ∀ account, account ∈ accounts.map Account.record ↔ ∃ entry ∈ entries, ∃ address found,
    address.length = binaryAddressLength ∧ entry.key = accountKey address ∧
    packages.codec.account entry.value = .ok found ∧ found.record = account

section AccountScan
variable {packages : Packages} {db : Database} {entries : List Entry}

theorem accountKey_database (address : Bytes) : accountKey address = databaseKey dbKeyAccountsAddress address := rfl

theorem accountKey_injective : Function.Injective accountKey := databaseKey_injective dbKeyAccountsAddress

def accountRows (entries : List Entry) : List Entry :=
  within Entry.key (accountKey (List.replicate 20 0)) (accountKey (List.replicate 20 255)) entries

theorem accountRows_under (member : entry ∈ accountRows entries) : entry ∈ entries ∧ Under dbKeyAccountsAddress entry.key := by
  obtain ⟨present,above,below⟩ := (mem_within Entry.key).mp member
  rw [accountKey_database,databaseKey_bytes] at above below
  have under := between_prefix above below
  exact ⟨present,under⟩

theorem accountRows_twenty (present : entry ∈ entries) (key : entry.key = accountKey address)
    (length : address.length = binaryAddressLength) : entry ∈ accountRows entries := by
  have twenty : address.length = 20 := length
  unfold accountRows
  rw [mem_within,key,accountKey_database,accountKey_database,accountKey_database,compare_databaseKey,compare_databaseKey,← twenty]
  refine ⟨present,lowest (fun other => ?_) address,highest (fun other => ?_) address⟩
  · rw [isLE_compare]
    exact UInt8.zero_le
  · have bound := other.toNat_lt
    rw [isLE_compare,UInt8.le_iff_toNat_le]
    exact Nat.le_of_lt_succ bound

def Decoded (packages : Packages) (entry : Entry) (account : Account) : Prop :=
  packages.codec.account entry.value = .ok account ∧ entry.key = accountKey account.address.bytes

theorem rows_decoded {rows : List Entry} (records : ∀ entry ∈ rows, ∃ account, Decoded packages entry account) :
    ∃ accounts, getDataFromDBStream rows packages.codec.account = .ok accounts ∧
      List.Forall₂ (Decoded packages) rows accounts := by
  induction rows with
  | nil => exact ⟨[],rfl,.nil⟩
  | cons entry rest ih =>
    obtain ⟨account,decoded⟩ := records entry List.mem_cons_self
    obtain ⟨accounts,read,all⟩ := ih (fun other member => records other (List.mem_cons_of_mem entry member))
    refine ⟨account :: accounts,?_,.cons decoded all⟩
    unfold getDataFromDBStream at read ⊢
    rw [List.mapM_cons,decoded.1,read]
    rfl

theorem decoded_ascending (ascending : rows.Pairwise (fun a b => compare a.key b.key = .lt))
    (decoded : List.Forall₂ (Decoded packages) rows accounts) :
    Ascending compare (accounts.map (fun account => account.address.bytes)) := by
  induction decoded with
  | nil => exact .nil
  | @cons entry account rest later first others ih =>
    obtain ⟨before,ascending⟩ := List.pairwise_cons.mp ascending
    refine List.pairwise_cons.mpr ⟨?_,ih ascending⟩
    intro address member
    obtain ⟨other,present,rfl⟩ := List.mem_map.mp member
    obtain ⟨row,inRest,own⟩ := related_source others present
    have less := before row inRest
    rwa [first.2,own.2,accountKey_database,accountKey_database,compare_databaseKey] at less

theorem readAccounts_scan (serves : db.Serves entries) (records : AccountRecords packages entries) :
    ∃ all, readAccounts packages db = .ok all ∧
      AccountScan packages entries (all.filter (fun acc => acc.address.bytes.length = binaryAddressLength)) := by
  have rows : ∀ entry ∈ accountRows entries, ∃ account, Decoded packages entry account := by
    intro entry member
    obtain ⟨present,under⟩ := accountRows_under member
    exact records entry present under
  obtain ⟨accounts,read,decoded⟩ := rows_decoded rows
  have streamed : db.createReadStream ⟨accountKey (List.replicate 20 0),accountKey (List.replicate 20 255),none⟩ =
      .ok (accountRows entries) := serves.stream _ (by simp)
  have scanned : readAccounts packages db = .ok (placeAccounts accounts) :=
    bind_ok.mpr ⟨_,streamed,bind_ok.mpr ⟨accounts,read,rfl⟩⟩
  refine ⟨_,scanned,?_,?_⟩
  · have ascending : (accountRows entries).Pairwise (fun a b => compare a.key b.key = .lt) :=
      serves.ascending.sublist List.filter_sublist
    have ordered := decoded_ascending ascending decoded
    have addresses : (placeAccounts accounts).map (fun account => account.address.bytes) =
        accounts.map (fun account => account.address.bytes) := by
      have records := congrArg (List.map (fun account => account.address.bytes)) (placed_records accounts)
      rwa [List.map_map,List.map_map] at records
    rw [← addresses] at ordered
    exact List.Pairwise.sublist (List.filter_sublist.map _) ordered
  · intro account
    have kept : ((placeAccounts accounts).filter (fun acc => acc.address.bytes.length = binaryAddressLength)).map Account.record =
        (accounts.map Account.record).filter (fun acc => acc.address.bytes.length = binaryAddressLength) := by
      rw [← placed_records accounts,List.filter_map]
      rfl
    rw [kept,List.mem_filter,List.mem_map]
    constructor
    · intro given
      obtain ⟨⟨found,present,same⟩,twenty⟩ := given
      obtain ⟨entry,inRows,own⟩ := related_source decoded present
      subst same
      exact ⟨entry,(accountRows_under inRows).1,found.address.bytes,found,of_decide_eq_true twenty,own.2,own.1,rfl⟩
    · intro given
      obtain ⟨entry,present,address,found,twenty,key,value,same⟩ := given
      obtain ⟨other,inAccounts,own⟩ := related_member decoded (accountRows_twenty present key twenty)
      cases value.symm.trans own.1
      have address : address = found.address.bytes := accountKey_injective (key.symm.trans own.2)
      subst same
      exact ⟨⟨found,inAccounts,rfl⟩,decide_eq_true (address ▸ twenty)⟩

end AccountScan

theorem key_encoding :
    Function.Injective encodeKey ∧
    (∀ a b, compare (encodeKey a) (encodeKey b) = compare a b) ∧
    (∀ a b : Bytes, a.length = b.length → encodeKey a <+: encodeKey b → encodeKey a = encodeKey b) ∧
    (∀ prefixKey id, databaseKey prefixKey id = bufferFrom (prefixKey ++ ":") ++ encodeKey id) ∧
    (∀ prefixKey, Function.Injective (databaseKey prefixKey)) ∧
    (∀ prefixKey a b, compare (databaseKey prefixKey a) (databaseKey prefixKey b) = compare a b) ∧
    (∀ prefixKey (a b : Bytes), a.length = b.length → databaseKey prefixKey a <+: databaseKey prefixKey b →
      databaseKey prefixKey a = databaseKey prefixKey b) ∧
    (∀ address, accountKey address = databaseKey dbKeyAccountsAddress address) ∧
    (∀ m n : Nat, m < n → n < 2^32 → ∃ keyM keyN, formatInt m = .ok keyM ∧ formatInt n = .ok keyN ∧
      ∀ prefixKey, compare (bufferFrom (prefixKey ++ keyM)) (bufferFrom (prefixKey ++ keyN)) = .lt) ∧
    ∀ (packages : Packages) (db : Database) (entries : List Entry), db.Serves entries → AccountRecords packages entries →
      ∃ all, readAccounts packages db = .ok all ∧
        AccountScan packages entries (all.filter (fun acc => acc.address.bytes.length = binaryAddressLength)) := by
  refine ⟨encodeKey_injective,compare_encodeKey,?_,databaseKey_encode,databaseKey_injective,compare_databaseKey,?_,
    accountKey_database,?_,fun _ _ _ => readAccounts_scan⟩
  · intro a b length before
    rw [encodeKey_whole length before]
  · intro prefixKey a b length before
    rw [databaseKey_encode,databaseKey_encode,List.prefix_append_right_inj] at before
    rw [encodeKey_whole length before]
  · intro m n less small
    refine ⟨_,_,formatInt_bytes (Nat.lt_trans less small),formatInt_bytes small,?_⟩
    intro prefixKey
    rw [compare_height (Nat.lt_trans less small) small,Nat.compare_eq_lt]
    exact less

namespace Sample

theorem accountRecords : AccountRecords packages table := by
  intro entry member under
  have kept : entry ∈ table.filter (fun entry => Under dbKeyAccountsAddress entry.key) :=
    List.mem_filter.mpr ⟨member,decide_eq_true under⟩
  have rows : table.filter (fun entry => Under dbKeyAccountsAddress entry.key) =
      [reserveAccount,delegateAccount,voterAccount].map
        (fun account => ⟨accountKey account.address.bytes,encodeAccount account⟩) := by decide +kernel
  rw [rows] at kept
  obtain ⟨account,present,rfl⟩ := List.mem_map.mp kept
  refine ⟨account,?_,rfl⟩
  revert account
  decide +kernel

end Sample

theorem key_encoding_sample : ∃ all, readAccounts Sample.packages Sample.database = .ok all ∧
    AccountScan Sample.packages Sample.table (all.filter (fun acc => acc.address.bytes.length = binaryAddressLength)) :=
  key_encoding.2.2.2.2.2.2.2.2.2 _ _ _ (ofEntries_serves (show Sample.table.Pairwise _ by decide +kernel)) Sample.accountRecords

end LiskMigrator
