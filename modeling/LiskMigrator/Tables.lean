import LiskMigrator.Pipeline

namespace LiskMigrator
open Text Sorting Collections Outcome

-- A database that holds a table of entries, in the order of the table.
def Database.ofEntries (entries : List Entry) : Database where
  get key :=
    match entries.find? (fun entry => entry.key = key) with
    | none => .error (.thrown "Specified key does not exist")
    | some entry => .ok entry.value
  createReadStream options := .ok (deliver entries options)

theorem ofEntries_serves (ascending : entries.Pairwise (fun a b => compare a.key b.key = .lt)) :
    (Database.ofEntries entries).Serves entries := ⟨ascending,fun _ _ => rfl⟩

-- A function known at finitely many points.
def tabulated [BEq K] (table : List (K × V)) (elsewhere : K → V) (key : K) : V := (table.lookup key).getD (elsewhere key)

theorem tabulated_cases [BEq K] [LawfulBEq K] (table : List (K × V)) (elsewhere : K → V) (key : K) :
    (∃ row ∈ table, row.1 = key ∧ tabulated table elsewhere key = row.2) ∨ tabulated table elsewhere key = elsewhere key := by
  unfold tabulated
  cases found : table.lookup key with
  | none => exact .inr rfl
  | some value =>
    obtain ⟨front,rest,rfl,_⟩ := List.lookup_eq_some_iff.mp found
    exact .inl ⟨(key,value),by simp,rfl,rfl⟩

theorem tabulated_injective [BEq K] [LawfulBEq K] (table : List (K × V)) (elsewhere : K → V)
    (values : (table.map Prod.snd).Nodup) (injective : Function.Injective elsewhere)
    (apart : ∀ row ∈ table, ∀ key, elsewhere key ≠ row.2) : Function.Injective (tabulated table elsewhere) := by
  intro one two same
  rcases tabulated_cases table elsewhere one with ⟨row,member,rfl,value⟩ | value <;>
    rcases tabulated_cases table elsewhere two with ⟨other,present,rfl,result⟩ | result <;> rw [value,result] at same
  · rw [List.inj_on_of_nodup_map values member present same]
  · exact absurd same.symm (apart row member two)
  · exact absurd same (apart other present one)
  · exact injective same

-- No text is the hexadecimal form of two bytestrings, so a text that is not the
-- form of the bytes it reads as is not the form of any.
theorem toHex_apart (odd : toHex (fromHex text) ≠ text) (bytes : Bytes) : toHex bytes ≠ text := by
  rintro rfl
  simp at odd

namespace Sample

-- The wire format of lisk-codec: every field is written in the order of the
-- schema, but an empty array leaves no trace.
def varintGroups : Nat → Nat → Bytes
  | 0,_ => []
  | digits+1,n => if n < 128 then [UInt8.ofNat n] else UInt8.ofNat (n % 128+128) :: varintGroups digits (n / 128)

def varint (n : Nat) : Bytes := varintGroups (n+1) n

def numberField (fieldNumber value : Nat) : Bytes := varint (8*fieldNumber) ++ varint value

def bytesField (fieldNumber : Nat) (value : Bytes) : Bytes := varint (8*fieldNumber+2) ++ varint value.length ++ value

def arrayField (fieldNumber : Nat) (encode : α → Bytes) (items : List α) : Bytes :=
  items.flatMap (fun item => bytesField fieldNumber (encode item))

def packedField (fieldNumber : Nat) (values : List Nat) : Bytes :=
  if values = [] then [] else bytesField fieldNumber (values.flatMap varint)

def encodeDelegate (delegate : DelegateState) : Bytes :=
  bytesField 1 (bufferFrom delegate.username) ++ packedField 2 delegate.pomHeights ++
    numberField 3 delegate.consecutiveMissedBlocks ++ numberField 4 delegate.lastForgedHeight ++
    numberField 5 delegate.isBanned.toNat ++ numberField 6 delegate.totalVotesReceived

def encodeVote (vote : SentVote) : Bytes := bytesField 1 vote.delegateAddress ++ numberField 2 vote.amount

def encodeUnlocking (unlocking : Unlocking) : Bytes :=
  bytesField 1 unlocking.delegateAddress ++ numberField 2 unlocking.amount ++ numberField 3 unlocking.unvoteHeight

def encodeKeys (keys : KeysState) : Bytes :=
  numberField 1 keys.numberOfSignatures ++ arrayField 2 id keys.mandatoryKeys ++ arrayField 3 id keys.optionalKeys

def encodeDpos (dpos : DposState) : Bytes :=
  bytesField 1 (encodeDelegate dpos.delegate) ++ arrayField 2 encodeVote dpos.sentVotes ++
    arrayField 3 encodeUnlocking dpos.unlocking

def encodeAccount (account : Account) : Bytes :=
  bytesField 1 account.address.bytes ++ bytesField 2 (numberField 1 account.token.balance) ++
    bytesField 3 (numberField 1 account.sequence.nonce) ++ bytesField 4 (encodeKeys account.keys) ++
    bytesField 5 (encodeDpos account.dpos)

def encodeUnregistered : List UnregisteredAccount → Bytes :=
  arrayField 1 (fun account => bytesField 1 account.address ++ numberField 2 account.balance)

def encodeDelegateWeight (delegate : DelegateWeight) : Bytes :=
  bytesField 1 delegate.address.bytes ++ numberField 2 delegate.voteWeight

def encodeVoteWeights (wrapper : VoteWeightsWrapper) : Bytes :=
  arrayField 1 (fun voteWeight => numberField 1 voteWeight.round ++
    arrayField 2 encodeDelegateWeight voteWeight.delegates) wrapper.voteWeights

def encodeHeader (header : BlockHeader) : Bytes :=
  numberField 1 header.version ++ numberField 2 header.timestamp ++ numberField 3 header.height ++
    bytesField 4 header.previousBlockID ++ bytesField 5 header.transactionRoot ++
    bytesField 6 header.generatorPublicKey ++ numberField 7 header.reward ++ bytesField 8 header.asset ++
    bytesField 9 header.signature

def encodeTransaction (tx : Transaction) : Bytes :=
  numberField 1 tx.moduleID ++ numberField 2 tx.assetID ++ numberField 3 tx.nonce ++ numberField 4 tx.fee ++
    bytesField 5 tx.senderPublicKey ++ bytesField 6 tx.asset ++ arrayField 7 id tx.signatures

-- A codec that knows finitely many records.
def decoded (encode : α → Bytes) (records : List α) : Bytes → Except Failure α :=
  tabulated (records.map (fun record => (encode record,.ok record))) (fun _ => .error (.thrown "Invalid data"))

def reserveAddress : Bytes := [2,232,124,102,157,99,52,129,252,153,242,178,213,203,47,88,125,150,251,172]
def delegateAddress : Bytes := [114,205,110,132,34,196,7,251,109,9,134,144,241,19,11,125,237,126,194,247]
def voterAddress : Bytes := [117,135,123,180,29,57,59,95,184,69,92,230,14,205,141,218,0,29,6,49]

def delegateKey : Bytes := List.replicate 32 1
def voterKey : Bytes := List.replicate 32 2

def plainAccount (address : Bytes) (balance : Nat) : Account where
  address := ⟨0,address⟩
  token := ⟨balance⟩
  sequence := ⟨0⟩
  keys := ⟨[],[],0⟩
  dpos := ⟨⟨"",[],0,0,false,0⟩,[],[]⟩

def reserveAccount : Account := plainAccount reserveAddress 5

def delegateAccount : Account :=
  { plainAccount delegateAddress 10 with
    sequence := ⟨1⟩
    dpos := ⟨⟨"one",[],0,0,true,5⟩,[⟨delegateAddress,3⟩],[⟨delegateAddress,2,100⟩]⟩ }

def voterAccount : Account :=
  { plainAccount voterAddress 20 with
    keys := ⟨[delegateKey,voterKey],[],2⟩
    dpos := ⟨⟨"",[],0,0,false,0⟩,[⟨delegateAddress,2⟩,⟨voterAddress,4⟩],[]⟩ }

def shuffledVoter : Account :=
  { voterAccount with
    keys := ⟨[voterKey,delegateKey],[],2⟩
    dpos := ⟨⟨"",[],0,0,false,0⟩,[⟨voterAddress,4⟩,⟨delegateAddress,2⟩],[]⟩ }

def unregistered : List UnregisteredAccount := [⟨List.replicate 8 1,7⟩,⟨List.replicate 8 2,8⟩]

def voteWeights : VoteWeightsWrapper := ⟨[⟨1,[⟨⟨0,voterAddress⟩,6⟩,⟨⟨0,delegateAddress⟩,5⟩]⟩]⟩

def firstHeader : BlockHeader := ⟨2,10,1,[],List.replicate 32 7,delegateKey,0,[],[]⟩
def secondHeader : BlockHeader := ⟨2,20,2,List.replicate 32 9,List.replicate 32 7,delegateKey,0,[],[]⟩

def transaction : Transaction := ⟨2,0,0,1,voterKey,[],[]⟩

def packages : Packages where
  codec :=
    { account := decoded encodeAccount [reserveAccount,delegateAccount,voterAccount,shuffledVoter]
      unregisteredAddresses := decoded encodeUnregistered [[],unregistered,unregistered.reverse]
      voteWeights := decoded encodeVoteWeights [⟨[]⟩,voteWeights]
      blockHeader := decoded encodeHeader [firstHeader,secondHeader]
      transaction := decoded encodeTransaction [transaction] }
  hash := tabulated [(bufferFrom "legacyReserve",⟨reserveAddress ++ [187,235,59,94,39,90,213,209,79,99,31,200],rfl⟩)]
    (fun _ => ⟨List.replicate 32 0,rfl⟩)
  getAddressFromPublicKey := tabulated [(delegateKey,delegateAddress),(voterKey,voterAddress)] id
  getLisk32AddressFromAddress := tabulated [(reserveAddress,"lskz5kn2akhood3cgpaf6a95ra85xfa9fhokvx4du"),
    (delegateAddress,"lsk75behxxv2ucges34ud38vp258wewhuwwmpqvn7"),
    (voterAddress,"lsk7ecww9zhnphqg7vm5ttzhto9s3zxdxyy2cqks6")] toHex

theorem lisk32_injective : Function.Injective packages.getLisk32AddressFromAddress := by
  apply tabulated_injective _ _ (by decide) toHex_injective
  intro row member
  apply toHex_apart
  revert row
  decide

-- A chain of two blocks and one transaction, with its account records and its
-- chain state.
def entries (accounts : List Account) (first second : BlockHeader) (unregisteredAddresses : List UnregisteredAccount)
    (delegateVoteWeights : VoteWeightsWrapper) : List Entry :=
  accounts.map (fun account => ⟨accountKey account.address.bytes,encodeAccount account⟩) ++
    [⟨databaseKey dbKeyBlocksId (List.replicate 32 1),encodeHeader first⟩,
      ⟨databaseKey dbKeyBlocksId (List.replicate 32 200),encodeHeader second⟩,
      ⟨chainStateKey chainStateDelegateVoteWeights,encodeVoteWeights delegateVoteWeights⟩,
      ⟨chainStateKey chainStateUnregisteredAddresses,encodeUnregistered unregisteredAddresses⟩,
      ⟨databaseKey dbKeyTransactionsId (List.replicate 32 3),encodeTransaction transaction⟩]

def table : List Entry := entries [reserveAccount,delegateAccount,voterAccount] firstHeader secondHeader unregistered voteWeights

def database : Database := .ofEntries table

def tokenID : String := "0000000000000000"

def run (db : Database) (process : Process) : EStateM.Result Failure Process (List GenesisAssetEntry) :=
  CreateAsset.init packages 4 db 300 tokenID 1 process

def snapshot : Snapshot := ⟨placeAccounts [reserveAccount,delegateAccount,voterAccount],unregistered⟩

def validatorKeys : Record String String := [(toHex delegateAddress,toHex delegateKey)]

def assets : List GenesisAssetEntry :=
  snapshot.emitted packages validatorKeys 300 tokenID 0
    ⟨posInitRounds,[delegateAddress,voterAddress].map packages.getLisk32AddressFromAddress⟩

theorem read : readSnapshot packages database = .ok snapshot := by decide +kernel

theorem ran : outcome (run database .fresh) = .ok assets := by decide +kernel

theorem distinct : snapshot.Distinct := by
  unfold Snapshot.Distinct
  decide +kernel

end Sample

end LiskMigrator
