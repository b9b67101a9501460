import LiskMigrator.Tables

namespace LiskMigrator
open Std Text Collections PrefixCode Paging Outcome

-- The records of one kind: their keys start with the name of the kind.
def Under (prefixKey : String) (key : Bytes) : Prop := bufferFrom (prefixKey ++ ":") <+: key

instance : Decidable (Under prefixKey key) := inferInstanceAs (Decidable (_ <+: _))

theorem databaseKey_bytes (prefixKey : String) (id : Bytes) :
    databaseKey prefixKey id = bufferFrom (prefixKey ++ ":") ++ id.flatMap latin1Code := by
  unfold databaseKey keyString
  rw [bufferFrom_append,bufferFrom_latin1]

theorem compare_databaseKey (prefixKey : String) (one two : Bytes) :
    compare (databaseKey prefixKey one) (databaseKey prefixKey two) = compare one two := by
  rw [databaseKey_bytes,databaseKey_bytes,compare_append,latin1_letters.compare_encoded]

theorem firstKey_below (prefixKey : String) {id : Bytes} (length : id.length = 32) :
    (compare (firstKey prefixKey) (databaseKey prefixKey id)).isLE := by
  unfold firstKey
  rw [compare_databaseKey,← length]
  apply lowest
  intro other
  rw [isLE_compare]
  exact UInt8.zero_le

theorem lastKey_above (prefixKey : String) {id : Bytes} (length : id.length = 32) :
    (compare (databaseKey prefixKey id) (lastKey prefixKey)).isLE := by
  unfold lastKey
  rw [compare_databaseKey,← length]
  apply highest
  intro other
  have bound := other.toNat_lt
  rw [isLE_compare,UInt8.le_iff_toNat_le]
  exact Nat.le_of_lt_succ bound

theorem between_under (prefixKey : String) {key : Bytes} (above : (compare (firstKey prefixKey) key).isLE)
    (below : (compare key (lastKey prefixKey)).isLE) : Under prefixKey key := by
  unfold firstKey at above
  unfold lastKey at below
  rw [databaseKey_bytes] at above below
  exact between_prefix above below

-- The next start is behind the key it is made from, and no key of an ID of the
-- same length lies in between: it could only extend the key.
theorem incrementOne_next (prefixKey : String) {id : Bytes} (length : id.length = 32) :
    ∃ next, incrementOne (databaseKey prefixKey id) = .ok next ∧ compare (databaseKey prefixKey id) next = .lt ∧
      ∀ later : Bytes, later.length = 32 → compare (databaseKey prefixKey id) (databaseKey prefixKey later) = .lt →
        (compare next (databaseKey prefixKey later)).isLE := by
  rcases List.eq_nil_or_concat id with rfl | ⟨start,byte,rfl⟩
  · cases length
  rw [List.concat_eq_append] at length ⊢
  obtain ⟨front,last,letter,small⟩ := latin1Code_last byte
  have shape : databaseKey prefixKey (start ++ [byte]) =
      (bufferFrom (prefixKey ++ ":") ++ start.flatMap latin1Code ++ front) ++ [last] := by
    rw [databaseKey_bytes,List.flatMap_append,List.flatMap_singleton,letter]
    simp only [List.append_assoc]
  have raised : (UInt8.ofNat (last.toNat+1)).toNat = last.toNat+1 := by
    rw [UInt8.toNat_ofNat']
    omega
  refine ⟨(bufferFrom (prefixKey ++ ":") ++ start.flatMap latin1Code ++ front) ++ [UInt8.ofNat (last.toNat+1)],?_,?_,?_⟩
  · rw [shape]
    exact incrementOne_last _ last (by omega)
  · rw [shape,compare_append,List.compare_cons_cons,compare_byte.mpr (by omega)]
    rfl
  · intro later same less
    have splits : Splits (databaseKey prefixKey (start ++ [byte])) (databaseKey prefixKey later) := by
      rw [compare_databaseKey] at less
      rw [databaseKey_bytes,databaseKey_bytes]
      exact (latin1_letters.encoded (splits_of_length (length.trans same.symm) less)).shared _
    rw [shape] at splits
    apply splits.leap
    intro other greater
    have above := compare_byte.mp greater
    rw [isLE_compare,UInt8.le_iff_toNat_le]
    omega

section Scan
variable {publicKeyOf : Bytes → Except Failure Bytes} {prefixKey : String} {db : Database} {entries : List Entry}

-- The keys of this kind are those of IDs of 32 bytes, and the values decode.
def Records (publicKeyOf : Bytes → Except Failure Bytes) (prefixKey : String) (entries : List Entry) : Prop :=
  ∀ entry ∈ entries, Under prefixKey entry.key →
    (∃ id : Bytes, id.length = 32 ∧ entry.key = databaseKey prefixKey id) ∧ ∃ publicKey, publicKeyOf entry.value = .ok publicKey

-- The set of the public keys of all records of this kind.
def FullScan (publicKeyOf : Bytes → Except Failure Bytes) (prefixKey : String) (entries : List Entry)
    (publicKeySet : List String) : Prop :=
  publicKeySet.Nodup ∧ ∀ key, key ∈ publicKeySet ↔ ∃ entry ∈ entries, Under prefixKey entry.key ∧
    ∃ publicKey, publicKeyOf entry.value = .ok publicKey ∧ toHex publicKey = key

def scannedRows (prefixKey : String) (entries : List Entry) : List Entry :=
  within Entry.key (firstKey prefixKey) (lastKey prefixKey) entries

theorem mem_scannedRows (records : Records publicKeyOf prefixKey entries) :
    entry ∈ scannedRows prefixKey entries ↔ entry ∈ entries ∧ Under prefixKey entry.key := by
  unfold scannedRows
  rw [mem_within]
  constructor
  · rintro ⟨member,above,below⟩
    exact ⟨member,between_under prefixKey above below⟩
  · rintro ⟨member,under⟩
    obtain ⟨⟨id,length,key⟩,_⟩ := records entry member under
    rw [key]
    exact ⟨member,firstKey_below prefixKey length,lastKey_above prefixKey length⟩

theorem fetchPage_serves (serves : db.Serves entries) {pageSize : Int} (positive : 1 ≤ pageSize) {start : Bytes}
    (inside : (compare (firstKey prefixKey) start).isLE) :
    fetchPage db prefixKey pageSize start =
      .ok ((within Entry.key start (lastKey prefixKey) (scannedRows prefixKey entries)).take pageSize.toNat) := by
  unfold fetchPage scannedRows
  rw [serves.stream]
  · rw [within_within Entry.key inside]
    rfl
  · rintro limit present
    cases present
    exact positive

theorem startAfter_next (records : Records publicKeyOf prefixKey entries) {entry : Entry}
    (member : entry ∈ scannedRows prefixKey entries) :
    ∃ next, startAfter entry = .ok next ∧ compare entry.key next = .lt ∧
      ∀ later ∈ scannedRows prefixKey entries, compare entry.key later.key = .lt → (compare next later.key).isLE := by
  obtain ⟨present,under⟩ := (mem_scannedRows records).mp member
  obtain ⟨⟨id,length,key⟩,_⟩ := records entry present under
  obtain ⟨next,raised,forward,gapless⟩ := incrementOne_next prefixKey length
  unfold startAfter
  rw [key]
  refine ⟨next,raised,forward,?_⟩
  intro later inRows less
  obtain ⟨laterPresent,laterUnder⟩ := (mem_scannedRows records).mp inRows
  obtain ⟨⟨laterId,laterLength,laterKey⟩,_⟩ := records later laterPresent laterUnder
  rw [laterKey] at less ⊢
  exact gapless laterId laterLength less

theorem getPublicKeySet_pass (serves : db.Serves entries) (records : Records publicKeyOf prefixKey entries)
    {pageSize : Int} (positive : 1 ≤ pageSize) {rounds : Nat} (enough : entries.length < rounds) :
    getPublicKeySet publicKeyOf prefixKey rounds db pageSize =
      (scannedRows prefixKey entries).foldlM (addPublicKey publicKeyOf) [] := by
  have everything : within Entry.key (firstKey prefixKey) (lastKey prefixKey) (scannedRows prefixKey entries) =
      scannedRows prefixKey entries := within_within Entry.key (by rw [ReflOrd.compare_self]; rfl) entries
  have shorter : (scannedRows prefixKey entries).length ≤ entries.length := List.length_filter_le _ _
  have ascending : (scannedRows prefixKey entries).Pairwise (fun a b => compare a.key b.key = .lt) :=
    serves.ascending.sublist List.filter_sublist
  unfold getPublicKeySet
  rw [scan_exact Entry.key (Int.lt_toNat.mpr positive) ascending
    (fun start inside => fetchPage_serves serves positive inside) (fun entry member => startAfter_next records member)
    rounds (firstKey prefixKey) [] (by rw [ReflOrd.compare_self]; rfl) (by rw [everything]; omega),everything]

theorem added_publicKeys {rows : List Entry} (decodes : ∀ entry ∈ rows, ∃ publicKey, publicKeyOf entry.value = .ok publicKey)
    (result : List String) :
    ∃ keys : List String, rows.foldlM (addPublicKey publicKeyOf) result = .ok (keys.foldl add result) ∧
      ∀ key, key ∈ keys ↔ ∃ entry ∈ rows, ∃ publicKey, publicKeyOf entry.value = .ok publicKey ∧ toHex publicKey = key := by
  induction rows generalizing result with
  | nil => exact ⟨[],rfl,by simp⟩
  | cons entry rest ih =>
    obtain ⟨publicKey,decoded⟩ := decodes entry List.mem_cons_self
    obtain ⟨keys,folded,members⟩ := ih (fun e member => decodes e (List.mem_cons_of_mem entry member)) (add result (toHex publicKey))
    refine ⟨toHex publicKey :: keys,?_,?_⟩
    · have first : addPublicKey publicKeyOf result entry = .ok (add result (toHex publicKey)) := by
        unfold addPublicKey
        rw [decoded]
        rfl
      rw [List.foldlM_cons,first]
      exact folded
    · intro key
      have own : (∃ other, publicKeyOf entry.value = .ok other ∧ toHex other = key) ↔ key = toHex publicKey := by
        simp [decoded,eq_comm]
      rw [List.mem_cons,List.exists_mem_cons_iff,own,members]

-- The rows that a key scan comes by, whatever it does with them.
def seenRows (db : Database) (prefixKey : String) (rounds : Nat) (pageSize : Int) : Except Failure (List Entry) :=
  seen (fetchPage db prefixKey pageSize) startAfter .unfinished rounds (firstKey prefixKey)

def Shows (publicKeyOf : Bytes → Except Failure Bytes) (rows : List Entry) (key : Bytes) : Prop :=
  ∃ entry ∈ rows, publicKeyOf entry.value = .ok key

theorem added_decodes {rows : List Entry} (added : rows.foldlM (addPublicKey publicKeyOf) result = .ok publicKeySet) :
    ∀ entry ∈ rows, ∃ publicKey, publicKeyOf entry.value = .ok publicKey := by
  induction rows generalizing result with
  | nil => simp
  | cons entry rest ih =>
    rw [List.foldlM_cons] at added
    obtain ⟨middle,first,later⟩ := bind_ok.mp added
    obtain ⟨publicKey,decoded,_⟩ := bind_ok.mp first
    intro other member
    rcases List.mem_cons.mp member with rfl | inRest
    · exact ⟨publicKey,listener_ok.mp decoded⟩
    · exact ih later other inRest

theorem getPublicKeySet_seen {rows : List Entry} (visited : seenRows db prefixKey rounds pageSize = .ok rows) :
    getPublicKeySet publicKeyOf prefixKey rounds db pageSize = rows.foldlM (addPublicKey publicKeyOf) [] :=
  scan_seen visited _ _

theorem seen_keys {rows : List Entry} (visited : seenRows db prefixKey rounds pageSize = .ok rows)
    (decodes : ∀ entry ∈ rows, ∃ publicKey, publicKeyOf entry.value = .ok publicKey) :
    ∃ keys : List Bytes, getPublicKeySet publicKeyOf prefixKey rounds db pageSize = .ok (keys.map toHex) ∧
      ∀ key, key ∈ keys ↔ Shows publicKeyOf rows key := by
  obtain ⟨texts,folded,members⟩ := added_publicKeys decodes []
  have inSet : ∀ text, text ∈ texts.foldl add [] ↔ ∃ key, Shows publicKeyOf rows key ∧ toHex key = text := by
    intro text
    rw [mem_addAll,members]
    constructor
    · rintro (none | ⟨entry,member,key,decoded,same⟩)
      · cases none
      · exact ⟨key,⟨entry,member,decoded⟩,same⟩
    · rintro ⟨key,⟨entry,member,decoded⟩,same⟩
      exact .inr ⟨entry,member,key,decoded,same⟩
  have written : ((texts.foldl add []).map fromHex).map toHex = texts.foldl add [] := by
    rw [List.map_map]
    conv => rhs; rw [← List.map_id (texts.foldl add [])]
    apply List.map_congr_left
    intro text member
    obtain ⟨key,_,rfl⟩ := (inSet text).mp member
    exact congrArg toHex (fromHex_toHex key)
  refine ⟨(texts.foldl add []).map fromHex,?_,?_⟩
  · rw [getPublicKeySet_seen visited,folded,written]
  · intro key
    rw [List.mem_map]
    constructor
    · rintro ⟨text,member,rfl⟩
      obtain ⟨own,shown,rfl⟩ := (inSet text).mp member
      rwa [fromHex_toHex]
    · intro shown
      exact ⟨toHex key,(inSet _).mpr ⟨key,shown,rfl⟩,fromHex_toHex key⟩

theorem getPublicKeySet_full (serves : db.Serves entries) (records : Records publicKeyOf prefixKey entries) :
    ∃ publicKeySet, FullScan publicKeyOf prefixKey entries publicKeySet ∧ ∀ pageSize, 1 ≤ pageSize →
      ∀ rounds, entries.length < rounds → getPublicKeySet publicKeyOf prefixKey rounds db pageSize = .ok publicKeySet := by
  have decodes : ∀ entry ∈ scannedRows prefixKey entries, ∃ publicKey, publicKeyOf entry.value = .ok publicKey := by
    intro entry member
    obtain ⟨present,under⟩ := (mem_scannedRows records).mp member
    exact (records entry present under).2
  obtain ⟨keys,folded,members⟩ := added_publicKeys decodes []
  refine ⟨keys.foldl add [],⟨addAll_nodup List.nodup_nil keys,?_⟩,?_⟩
  · intro key
    simp only [mem_addAll,List.not_mem_nil,false_or,members,mem_scannedRows records,and_assoc]
  · intro pageSize positive rounds enough
    rw [getPublicKeySet_pass serves records positive enough,folded]

end Scan

theorem key_scans_full (packages : Packages) (serves : db.Serves entries) :
    (Records (generatorPublicKey packages) dbKeyBlocksId entries →
      ∃ publicKeySet, FullScan (generatorPublicKey packages) dbKeyBlocksId entries publicKeySet ∧ ∀ pageSize, 1 ≤ pageSize →
        ∀ rounds, entries.length < rounds → getBlockPublicKeySet packages rounds db pageSize = .ok publicKeySet) ∧
    (Records (senderPublicKey packages) dbKeyTransactionsId entries →
      ∃ publicKeySet, FullScan (senderPublicKey packages) dbKeyTransactionsId entries publicKeySet ∧ ∀ pageSize, 1 ≤ pageSize →
        ∀ rounds, entries.length < rounds → getTransactionPublicKeySet packages rounds db pageSize = .ok publicKeySet) :=
  ⟨getPublicKeySet_full serves,getPublicKeySet_full serves⟩

namespace Sample

theorem blocks : Records (generatorPublicKey packages) dbKeyBlocksId table := by
  intro entry member under
  have kept : entry ∈ table.filter (fun entry => Under dbKeyBlocksId entry.key) :=
    List.mem_filter.mpr ⟨member,decide_eq_true under⟩
  have rows : table.filter (fun entry => Under dbKeyBlocksId entry.key) =
      [⟨databaseKey dbKeyBlocksId (List.replicate 32 1),encodeHeader firstHeader⟩,
        ⟨databaseKey dbKeyBlocksId (List.replicate 32 200),encodeHeader secondHeader⟩] := by decide +kernel
  rw [rows] at kept
  rcases List.mem_cons.mp kept with rfl | second
  · exact ⟨⟨_,rfl,rfl⟩,delegateKey,by decide +kernel⟩
  · cases List.mem_singleton.mp second
    exact ⟨⟨_,rfl,rfl⟩,delegateKey,by decide +kernel⟩

theorem transactions : Records (senderPublicKey packages) dbKeyTransactionsId table := by
  intro entry member under
  have kept : entry ∈ table.filter (fun entry => Under dbKeyTransactionsId entry.key) :=
    List.mem_filter.mpr ⟨member,decide_eq_true under⟩
  have rows : table.filter (fun entry => Under dbKeyTransactionsId entry.key) =
      [⟨databaseKey dbKeyTransactionsId (List.replicate 32 3),encodeTransaction transaction⟩] := by decide +kernel
  rw [rows] at kept
  cases List.mem_singleton.mp kept
  exact ⟨⟨_,rfl,rfl⟩,voterKey,by decide +kernel⟩

end Sample

theorem key_scans_full_sample : (∃ publicKeySet,
    FullScan (generatorPublicKey Sample.packages) dbKeyBlocksId Sample.table publicKeySet ∧ ∀ pageSize, 1 ≤ pageSize →
      ∀ rounds, Sample.table.length < rounds →
        getBlockPublicKeySet Sample.packages rounds Sample.database pageSize = .ok publicKeySet) ∧
    ∃ publicKeySet,
      FullScan (senderPublicKey Sample.packages) dbKeyTransactionsId Sample.table publicKeySet ∧ ∀ pageSize, 1 ≤ pageSize →
        ∀ rounds, Sample.table.length < rounds →
          getTransactionPublicKeySet Sample.packages rounds Sample.database pageSize = .ok publicKeySet := by
  have scans := key_scans_full Sample.packages (ofEntries_serves (show Sample.table.Pairwise _ by decide +kernel))
  exact ⟨scans.1 Sample.blocks,scans.2 Sample.transactions⟩

end LiskMigrator
