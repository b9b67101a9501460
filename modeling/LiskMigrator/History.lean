import LiskMigrator.Tables

namespace LiskMigrator
open Text Sorting Collections Outcome

structure Call where
  rounds : Nat
  db : Database
  snapshotHeight : Int
  tokenID : String
  pageSize : Int

namespace Call
variable (packages : Packages) (call : Call)

def run (process : Process) : EStateM.Result Failure Process (List GenesisAssetEntry) :=
  CreateAsset.init packages call.rounds call.db call.snapshotHeight call.tokenID call.pageSize process

-- What a call adds to the supply that outlives it: what its accounts hold, if
-- it reads all its inputs, however it ends.
def added : Nat :=
  match prepare packages call.rounds call.db call.pageSize with
  | .ok (snapshot,_) => snapshot.held
  | .error _ => 0

-- All inputs of the call can be read, the vote weights of round r-2 included.
def Complete : Prop :=
  ∃ snapshot validatorKeys genesisData, prepare packages call.rounds call.db call.pageSize = .ok (snapshot,validatorKeys) ∧
    conclude packages call.db call.snapshotHeight snapshot = .ok genesisData

theorem run_adds (process : Process) :
    (left (call.run packages process)).totalLSKSupply = process.totalLSKSupply+call.added packages := by
  unfold run added
  cases prepared : prepare packages call.rounds call.db call.pageSize with
  | error failure =>
    obtain ⟨_,refused⟩ := init_refused packages call.rounds call.db call.snapshotHeight call.tokenID call.pageSize process prepared
    rw [refused]
    rfl
  | ok read =>
    rw [init_prepared packages call.rounds call.db call.snapshotHeight call.tokenID call.pageSize process prepared]
    cases conclude packages call.db call.snapshotHeight read.1 <;> rfl

end Call

section Histories
variable (packages : Packages)

-- The process as a sequence of calls leaves it, whatever their outcomes.
def after (history : List Call) (process : Process) : Process :=
  history.foldl (fun process call => left (call.run packages process)) process

theorem after_adds (history : List Call) (process : Process) :
    (after packages history process).totalLSKSupply =
      process.totalLSKSupply+(history.map (fun call => call.added packages)).sum := by
  unfold after
  induction history generalizing process with
  | nil => rfl
  | cons call rest ih => rw [List.foldl_cons,ih,call.run_adds packages,List.map_cons,List.sum_cons,Nat.add_assoc]

theorem emitted_inj {snapshot : Snapshot} {validatorKeys : Record String String} {snapshotHeight : Int} {tokenID : String}
    {genesisData : GenesisDataEntry} :
    snapshot.emitted packages validatorKeys snapshotHeight tokenID m genesisData =
      snapshot.emitted packages validatorKeys snapshotHeight tokenID n genesisData ↔ m = n := by
  constructor
  · intro same
    have supplies := congrArg (stored GenesisData.supplySubstore) same
    simp [GenesisData.supplySubstore,getInteropModuleEntry,Snapshot.totalSupply] at supplies
    omega
  · rintro rfl
    rfl

theorem run_repeats_iff (call : Call) (process : Process) :
    outcome (call.run packages process) = outcome (call.run packages .fresh) ↔
      (call.Complete packages → process.totalLSKSupply = 0) := by
  unfold Call.run
  rw [init_exact,init_exact]
  cases prepared : prepare packages call.rounds call.db call.pageSize with
  | error failure =>
    have incomplete : ¬ call.Complete packages := by
      rintro ⟨_,_,_,read,_⟩
      cases prepared.symm.trans read
    exact ⟨fun _ complete => absurd complete incomplete,fun _ => rfl⟩
  | ok read =>
    cases concluded : conclude packages call.db call.snapshotHeight read.1 with
    | error failure =>
      have incomplete : ¬ call.Complete packages := by
        rintro ⟨_,_,_,again,ended⟩
        cases prepared.symm.trans again
        cases concluded.symm.trans ended
      refine ⟨fun _ complete => absurd complete incomplete,fun _ => ?_⟩
      simp only [bind,Except.bind,concluded]
    | ok genesisData =>
      have complete : call.Complete packages := ⟨read.1,read.2,genesisData,prepared,concluded⟩
      have fresh : Process.fresh.totalLSKSupply = 0 := rfl
      simp only [bind,Except.bind,concluded,pure,Except.pure,Except.ok.injEq,emitted_inj,fresh,complete,true_imp_iff]

end Histories

theorem history_forgotten_iff (packages : Packages) (history : List Call) (call : Call) :
    outcome (call.run packages (after packages history .fresh)) = outcome (call.run packages .fresh) ↔
      (call.Complete packages → ∀ earlier ∈ history, earlier.added packages = 0) := by
  have fresh : Process.fresh.totalLSKSupply = 0 := rfl
  rw [run_repeats_iff,after_adds,fresh,Nat.zero_add,List.sum_eq_zero_iff_forall_eq_nat]
  simp only [List.mem_map,forall_exists_index,and_imp,forall_apply_eq_imp_iff₂]

namespace Sample

def unweighted : Database := .ofEntries (entries [reserveAccount,delegateAccount,voterAccount] firstHeader secondHeader
  unregistered ⟨[]⟩)

def call (db : Database) : Call := ⟨4,db,300,tokenID,1⟩

end Sample

theorem failed_call_remembered :
    outcome ((Sample.call Sample.unweighted).run Sample.packages .fresh) = .error (unavailable 3) ∧
    outcome ((Sample.call Sample.database).run Sample.packages .fresh) = .ok Sample.assets ∧
    outcome ((Sample.call Sample.database).run Sample.packages
      (after Sample.packages [Sample.call Sample.unweighted] .fresh)) ≠ .ok Sample.assets := by
  refine ⟨by decide +kernel,Sample.ran,?_⟩
  decide +kernel

end LiskMigrator
