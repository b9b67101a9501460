import LiskMigrator.KeyScan
import LiskMigrator.Pipeline
import LiskMigrator.Run

namespace LiskMigrator
open Interaction Outcome

def Flags.paged (flags : Flags) (pageSize : Int) : Flags := { flags with pageSize }

def Context.paged (context : Context) (pageSize : Int) : Context := { context with flags := context.flags.paged pageSize }

-- A database whose blocks and transactions can be scanned in the rounds there are.
def Scannable (packages : Packages) (rounds : Nat) (db : Database) : Prop :=
  ∃ entries, db.Serves entries ∧ Records (generatorPublicKey packages) dbKeyBlocksId entries ∧
    Records (senderPublicKey packages) dbKeyTransactionsId entries ∧ entries.length < rounds

section Creation
variable {packages : Packages} {rounds : Nat} {db : Database} {one two : Int}

theorem scan_paged {publicKeyOf : Bytes → Except Failure Bytes} {prefixKey : String} (serves : db.Serves entries)
    (records : Records publicKeyOf prefixKey entries) (enough : entries.length < rounds) (first : 1 ≤ one) (second : 1 ≤ two) :
    getPublicKeySet publicKeyOf prefixKey rounds db one = getPublicKeySet publicKeyOf prefixKey rounds db two := by
  obtain ⟨publicKeySet,_,scans⟩ := getPublicKeySet_full serves records
  rw [scans one first rounds enough,scans two second rounds enough]

theorem keys_paged (scannable : Scannable packages rounds db) (first : 1 ≤ one) (second : 1 ≤ two) (accounts : List Account) :
    getValidatorKeys packages rounds accounts db one = getValidatorKeys packages rounds accounts db two := by
  obtain ⟨entries,serves,blocks,transactions,enough⟩ := scannable
  have sameBlocks : getBlockPublicKeySet packages rounds db one = getBlockPublicKeySet packages rounds db two :=
    scan_paged serves blocks enough first second
  have sameTransactions : getTransactionPublicKeySet packages rounds db one = getTransactionPublicKeySet packages rounds db two :=
    scan_paged serves transactions enough first second
  unfold getValidatorKeys
  rw [sameBlocks,sameTransactions]

theorem init_paged (scannable : Scannable packages rounds db) (first : 1 ≤ one) (second : 1 ≤ two) (snapshotHeight : Int) (tokenID : String) :
    CreateAsset.init packages rounds db snapshotHeight tokenID one = CreateAsset.init packages rounds db snapshotHeight tokenID two := by
  unfold CreateAsset.init
  simp only [keys_paged scannable first second]

end Creation

section Run
variable {host : Host} {packages : Packages} {rounds : Nat} {world : World migrator} {context : Context} {one two : Int}

-- Every database that is opened can be scanned.
def Openable (packages : Packages) (rounds : Nat) (world : World migrator) : Prop :=
  ∀ events path db, world events (.openDatabase path) = .ok db → Scannable packages rounds db

theorem createAssets_paged (openable : Openable packages rounds world) (first : 1 ≤ one) (second : 1 ≤ two) :
    createAssets packages rounds world (context.paged one) = createAssets packages rounds world (context.paged two) := by
  funext s
  unfold createAssets
  apply bind_agrees
  intro _ s _
  apply bind_agrees
  intro _ s _
  apply bind_agrees
  intro snapshotDirPath s _
  apply bind_agrees
  intro db t opened
  have answered : ask world (.openDatabase snapshotDirPath) s = .ok (.ok db) t := settled_answer opened
  have scannable : Scannable packages rounds db := openable s.events snapshotDirPath db (EStateM.Result.ok.inj answered).1
  apply bind_agrees
  intro store u _
  have same := init_paged scannable first second context.flags.snapshotHeight (store.tokenIDLsk.getD "")
  change (ofProcess (CreateAsset.init packages rounds db context.flags.snapshotHeight (store.tokenIDLsk.getD "") one) >>= _) u =
    (ofProcess (CreateAsset.init packages rounds db context.flags.snapshotHeight (store.tokenIDLsk.getD "") two) >>= _) u
  rw [same]

-- The other steps do not look at the page size.
theorem tryBlock_paged (openable : Openable packages rounds world) (first : 1 ≤ one) (second : 1 ≤ two) :
    tryBlock host packages rounds world (context.paged one) = tryBlock host packages rounds world (context.paged two) := by
  unfold tryBlock
  rw [createAssets_paged openable first second]
  rfl

theorem enterRun_paged (flags : Flags) (pageSize : Int) :
    enterRun host world (flags.paged pageSize) = (do
      let context ← enterRun host world flags
      return context.paged pageSize) := by
  unfold enterRun
  simp only [bind_assoc,pure_bind]
  rfl

end Run

namespace Sample

def opening : World migrator := fun _ request =>
  match request with
  | .ensureDir _ => .ok ()
  | .openDatabase _ => .ok database
  | request => refused request

def pagedFlags : Flags := ⟨some "/out",none,300,none,false,false,1,some "/snapshot",none,some "mainnet"⟩

theorem opening_openable : Openable packages 9 opening := by
  intro events path db opened
  cases opened
  exact ⟨table,ofEntries_serves (by decide +kernel),blocks,transactions,by decide +kernel⟩

end Sample

end LiskMigrator
