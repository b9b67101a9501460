import LiskMigrator.ConfigMigration
import LiskMigrator.InitValidators
import LiskMigrator.RecoveryCommands

namespace LiskMigrator
open Interaction Outcome Text

-- The height ends a round, and the vote weights are those of the round two before.
structure RoundBoundary (packages : Packages) (snapshotHeight : Int) : Prop where
  divides : roundLength ∣ snapshotHeight
  exact : ∀ r, ceiling snapshotHeight roundLength = .ok r → r*roundLength = snapshotHeight
  weights : ∀ accounts delegatesVoteWeights data,
    createGenesisDataObj packages accounts delegatesVoteWeights snapshotHeight = .ok data →
      ∃ voteWeightR2, delegatesVoteWeights.voteWeights.find?
          (fun voteWeight => voteWeight.round = snapshotHeight / roundLength-2) = some voteWeightR2 ∧
        data.initValidators = ((sortedInitValidators accounts voteWeightR2.delegates).map Buffer.bytes).map
          packages.getLisk32AddressFromAddress

theorem ceil_multiple (k : Int) : ⌈((roundLength*k : Int) : ℚ)/103⌉ = k := by
  have quotient : ((roundLength*k : Int) : ℚ)/103 = (k : ℚ) := by
    have length : ((roundLength*k : Int) : ℚ) = 103*(k : ℚ) := by
      have value : roundLength = 103 := rfl
      rw [value]
      push_cast
      rfl
    rw [length,mul_div_cancel_left₀ _ (by norm_num)]
  rw [quotient,Int.ceil_intCast]

theorem multiple_boundary (divides : roundLength ∣ snapshotHeight) : RoundBoundary packages snapshotHeight := by
  obtain ⟨k,rfl⟩ := divides
  refine ⟨⟨k,rfl⟩,?_,?_⟩
  · intro r computed
    rw [ceiling_exact,ceil_multiple] at computed
    cases computed
    exact Int.mul_comm k roundLength
  · intro accounts weights data created
    have parts := genesisData_parts created
    have quotient : roundLength*k / roundLength = k := Int.mul_ediv_cancel_left k (by decide)
    rw [ceil_multiple] at parts
    rw [quotient]
    exact parts

section Check
variable {host : Host} {world : World migrator} {s : Session migrator Store}

theorem cliErrorIf_ends (condition : Prop) [Decidable condition] (message : String) :
    Ends (cliErrorIf condition message) s (fun _ _ => ¬ condition) (fun _ _ => True) := by
  by_cases holds : condition
  · rw [cliErrorIf,if_pos holds]
    exact ends_throw trivial
  · rw [cliErrorIf,if_neg holds]
    exact ends_pure holds

theorem verifyNode_ends : Ends (verifyNode host world context) s (fun _ _ => roundLength ∣ context.flags.snapshotHeight)
    (fun _ _ => True) := by
  apply ends_bind ends_any
  intro nodeInfo t _
  apply ends_bind (cliErrorIf_ends _ _)
  intro _ t _
  apply ends_bind (cliErrorIf_ends _ _)
  intro _ t whole
  have divides : roundLength ∣ context.flags.snapshotHeight := Int.dvd_of_tmod_eq_zero (not_not.mp whole)
  exact ends_always (fun _ _ => divides) (fun _ _ => trivial)

-- A height that nothing has checked is refused before the database is opened.
theorem unchecked_quiet (refused : ¬ (context.useSnapshot = true ∨ roundLength ∣ context.flags.snapshotHeight)) :
    Ends (prepareSnapshot host world context) s (fun _ _ => False) (fun _ t => passed t.events = passed s.events) := by
  have online : context.useSnapshot = false := by simpa using (not_or.mp refused).1
  have checked : Ends (prepareSnapshot host world context) s (fun _ _ => roundLength ∣ context.flags.snapshotHeight)
      (fun _ _ => True) := by
    unfold prepareSnapshot
    rw [online]
    exact verifyNode_ends
  apply ends_imp (ends_and (quiet_prepareSnapshot s) checked)
  · exact fun _ _ ended => absurd (.inr ended.2) refused
  · exact fun _ _ ended => passed_follows ended.1.1

theorem enterRun_flags : Ends (enterRun host world flags) s
    (fun context _ => context.flags = flags ∧ context.useSnapshot = useSnapshotOf host flags) (fun _ _ => True) := by
  apply ends_bind ends_any
  intro _ t _
  apply ends_bind ends_any
  intro networkIdentifier t _
  apply ends_bind ends_any
  exact fun _ _ _ => ends_pure ⟨rfl,rfl⟩

theorem catchBlock_throws : Ends (catchBlock host world context e) s (fun _ _ => False) (fun _ _ => True) := by
  apply ends_bind ends_any
  intro network t _
  apply ends_bind ends_any
  intro store t _
  apply ends_bind ends_any
  exact fun _ _ _ => ends_throw trivial

theorem run_checked : Ends (LiskMigrator.run host packages rounds world flags) s
    (fun _ t => passed t.events = passed s.events ∨ useSnapshotOf host flags = true ∨ roundLength ∣ flags.snapshotHeight)
    (fun _ t => passed t.events = passed s.events ∨ useSnapshotOf host flags = true ∨ roundLength ∣ flags.snapshotHeight) := by
  by_cases checked : useSnapshotOf host flags = true ∨ roundLength ∣ flags.snapshotHeight
  · exact ends_always (fun _ _ => .inr checked) (fun _ _ => .inr checked)
  · apply ends_bind (ends_imp (ends_and (quiet_enterRun s) enterRun_flags) (fun _ _ ended => ended)
      (fun _ _ ended => .inl (passed_follows ended.1.1)))
    intro context t entered
    obtain ⟨entered,same,used⟩ := entered
    have unchecked : ¬ (context.useSnapshot = true ∨ roundLength ∣ context.flags.snapshotHeight) := by rwa [used,same]
    have nothing := passed_follows entered
    have refused : Ends (handle (tryBlock host packages rounds world context) (onFailure host world context)) t
        (fun _ _ => False) (fun _ u => passed u.events = passed t.events) := by
      apply ends_handle (fun _ u => passed u.events = passed t.events)
      · exact ends_bind (unchecked_quiet unchecked) (fun _ _ absurd => absurd.elim)
      · intro e u stopped
        apply ends_ite
        · intro _
          apply ends_imp (ends_and (quiet_catchBlock u) catchBlock_throws)
          · exact fun _ _ ended => ended.2
          · exact fun _ _ ended => (passed_follows ended.1.1).trans stopped
        · exact fun _ => ends_throw stopped
    apply ends_bind (ends_imp refused (fun _ _ never => never) (fun _ _ ended => .inl (ended.trans nothing)))
    exact fun _ _ never => never.elim

end Check

theorem round_boundary_iff
    (reached : ⟨.openDatabase path,.ok db⟩ ∈ (left (LiskMigrator.run host packages rounds world flags ⟨[],.fresh⟩)).events) :
    RoundBoundary packages flags.snapshotHeight ↔
      (useSnapshotOf host flags = true → roundLength ∣ flags.snapshotHeight) := by
  constructor
  · exact fun boundary _ => boundary.divides
  · intro offline
    have opened : .opened ∈ passed (left (LiskMigrator.run host packages rounds world flags ⟨[],.fresh⟩)).events :=
      List.mem_filterMap.mpr ⟨_,reached,rfl⟩
    rcases ends_left run_checked with nothing | used | divides
    · rw [nothing] at opened
      cases opened
    · exact multiple_boundary (offline used)
    · exact multiple_boundary divides

namespace Sample

def heightKey : Bytes := bufferFrom (dbKeyBlocksHeight ++ ":" ++ latin1 [0,0,1,44])

-- The sample chain with a block at height 300, which is no multiple of 103.
def chain : Database := { database with
  get := fun key => if key = heightKey then .ok (List.replicate 32 1) else database.get key }

def snapshotOf (db : Database) : World migrator := fun _ request =>
  match request with
  | .ensureDir _ => .ok ()
  | .openDatabase _ => .ok db
  | .readDefaultConfig _ => .ok baseConfig
  | .writeGenesisAssets _ _ => .ok ()
  | .exec _ => .ok ""
  | request => refused request

def unevenFlags : Flags := ⟨some "/out",none,300,none,false,false,1,some "/snapshot",none,some "mainnet"⟩

def unevenRun (db : Database) : Session migrator Store :=
  left (LiskMigrator.run host packages 4 (snapshotOf db) unevenFlags ⟨[],.fresh⟩)

theorem uneven_passed : passed (unevenRun chain).events = [.genesisCreated,.opened] := by decide +kernel

theorem uneven_opened : ∃ path db, ⟨.openDatabase path,.ok db⟩ ∈ (unevenRun chain).events := by
  have opened : .opened ∈ passed (unevenRun chain).events := uneven_passed ▸ .tail _ (.head _)
  obtain ⟨event,member,marked⟩ := List.mem_filterMap.mp opened
  cases milestone_iff.mp marked
  exact ⟨_,_,member⟩

end Sample

-- This run opens the database, and creates a genesis block by it.
theorem round_boundary_sample : RoundBoundary Sample.packages 300 ↔
    (useSnapshotOf Sample.host Sample.unevenFlags = true → roundLength ∣ 300) := by
  obtain ⟨path,db,reached⟩ := Sample.uneven_opened
  exact round_boundary_iff reached

theorem genesis_between_rounds : Completed (Sample.unevenRun Sample.chain).events .createGenesisBlock ∧ ¬ roundLength ∣ 300 := by
  refine ⟨(completed_iff _).mpr ?_,by decide⟩
  rw [RecoveryStep.milestone,Sample.uneven_passed]
  exact .head _

end LiskMigrator
