import LiskMigrator.Recovery
import LiskMigrator.Tables

namespace LiskMigrator
open Interaction Outcome

-- What the events of a run say of the step that a section of the commands is about.
def Completed (events : List (Event migrator)) : RecoveryStep → Prop
  | .createGenesisBlock => ∃ command stdout, ⟨.exec (.createGenesisBlock command),.ok stdout⟩ ∈ events
  | .backupLegacyDataDir => ∃ src dest, ⟨.rename src dest,.ok ()⟩ ∈ events
  | .copyLegacyDB => ∃ src dest, ⟨.copyDir src dest,.ok ()⟩ ∈ events
  | .startLiskCore => ∃ pm2FilePath stdout, ⟨.exec (.startPM2 pm2FilePath),.ok stdout⟩ ∈ events

-- The two events behind which a failure has a code of the creation of the genesis
-- block before the command for it is known: the migrated configuration was
-- refused, or the installation left with status 1 or 2.
inductive Premature : Event migrator → Prop where
  | configRefused : Premature ⟨.validate config,false⟩
  | installExited (low : status.val ≤ 2) : Premature ⟨.exec .installLiskCore,.error ⟨message,.exit status⟩⟩

-- The events behind which the code of a failure tells how far the run got: those
-- two, or the genesis block was not created, the data directory was not moved, or
-- the copy of the database was begun.
inductive Decisive : Event migrator → Prop where
  | premature (premature : Premature event) : Decisive event
  | genesisFailed : Decisive ⟨.exec (.createGenesisBlock command),.error fault⟩
  | mkdirFailed : Decisive ⟨.mkdir path,.error fault⟩
  | renameFailed : Decisive ⟨.rename src dest,.error fault⟩
  | copyTried : Decisive ⟨.copyDir src dest,reply⟩

def RecoveryStep.milestone : RecoveryStep → Milestone
  | .createGenesisBlock => .genesisCreated
  | .backupLegacyDataDir => .backedUp
  | .copyLegacyDB => .copied
  | .startLiskCore => .started

namespace Milestone

def premature : Milestone → Prop
  | .configRefused => True
  | .installExited status => status.val ≤ 2
  | _ => False

def decisive : Milestone → Prop
  | .genesisFailed => True
  | .backupFailed => True
  | .copyFailed => True
  | .copied => True
  | mark => mark.premature

end Milestone

section Events
variable {events : List (Event migrator)}

theorem completed_iff (step : RecoveryStep) : Completed events step ↔ step.milestone ∈ passed events := by
  unfold passed
  rw [List.mem_filterMap]
  constructor
  · intro completed
    cases step with
    | createGenesisBlock =>
      obtain ⟨command,stdout,member⟩ := completed
      exact ⟨_,member,rfl⟩
    | backupLegacyDataDir =>
      obtain ⟨src,dest,member⟩ := completed
      exact ⟨_,member,rfl⟩
    | copyLegacyDB =>
      obtain ⟨src,dest,member⟩ := completed
      exact ⟨_,member,rfl⟩
    | startLiskCore =>
      obtain ⟨pm2FilePath,stdout,member⟩ := completed
      exact ⟨_,member,rfl⟩
  · intro passed
    obtain ⟨event,member,marked⟩ := passed
    have marked := milestone_iff.mp marked
    cases step with
    | createGenesisBlock =>
      cases marked
      exact ⟨_,_,member⟩
    | backupLegacyDataDir =>
      cases marked
      exact ⟨_,_,member⟩
    | copyLegacyDB =>
      cases marked
      exact ⟨_,_,member⟩
    | startLiskCore =>
      cases marked
      exact ⟨_,_,member⟩

theorem premature_event (event : Event migrator) : Premature event ↔ ∃ mark, milestone event = some mark ∧ mark.premature := by
  constructor
  · intro premature
    cases premature with
    | configRefused => exact ⟨_,rfl,trivial⟩
    | installExited low => exact ⟨_,rfl,low⟩
  · intro marked
    obtain ⟨mark,marked,premature⟩ := marked
    cases milestone_iff.mp marked with
    | configRefused => exact .configRefused
    | installExited => exact .installExited premature
    | _ => exact premature.elim

theorem decisive_event (event : Event migrator) : Decisive event ↔ ∃ mark, milestone event = some mark ∧ mark.decisive := by
  constructor
  · intro decisive
    cases decisive with
    | premature premature =>
      obtain ⟨mark,marked,premature⟩ := (premature_event event).mp premature
      refine ⟨mark,marked,?_⟩
      cases mark with
      | configRefused => exact premature
      | installExited status => exact premature
      | _ => exact premature.elim
    | genesisFailed => exact ⟨_,rfl,trivial⟩
    | mkdirFailed => exact ⟨_,rfl,trivial⟩
    | renameFailed => exact ⟨_,rfl,trivial⟩
    | @copyTried src dest reply =>
      cases reply with
      | ok _ => exact ⟨_,rfl,trivial⟩
      | error _ => exact ⟨_,rfl,trivial⟩
  · intro marked
    obtain ⟨mark,marked,decisive⟩ := marked
    have early (premature : mark.premature) : Decisive event := .premature ((premature_event event).mpr ⟨mark,marked,premature⟩)
    cases milestone_iff.mp marked with
    | configRefused => exact early decisive
    | installExited => exact early decisive
    | genesisFailed => exact .genesisFailed
    | mkdirFailed => exact .mkdirFailed
    | renameFailed => exact .renameFailed
    | copyFailed => exact .copyTried
    | copied => exact .copyTried
    | _ => exact decisive.elim

-- What is said of an event by its milestone is said of the events by those passed.
theorem passed_any {kind : Event migrator → Prop} {marks : Milestone → Prop}
    (same : ∀ event, kind event ↔ ∃ mark, milestone event = some mark ∧ marks mark) :
    (∃ event ∈ events, kind event) ↔ ∃ mark ∈ passed events, marks mark := by
  constructor
  · intro found
    obtain ⟨event,member,holds⟩ := found
    obtain ⟨mark,marked,marks⟩ := (same event).mp holds
    exact ⟨mark,List.mem_filterMap.mpr ⟨event,member,marked⟩,marks⟩
  · intro found
    obtain ⟨mark,member,marks⟩ := found
    obtain ⟨event,inEvents,marked⟩ := List.mem_filterMap.mp member
    exact ⟨event,inEvents,(same event).mpr ⟨mark,marked,marks⟩⟩

end Events

-- The steps that the code lists have a section for are those that are not passed.
def ExactList (milestones : List Milestone) (code : Option Nat) : Prop :=
  ∀ step : RecoveryStep, includesCode step.codes code = true ↔ step.milestone ∉ milestones

-- A code that is no number is in no list: there is no section for what is left.
theorem uncoded_inexact (step : RecoveryStep) (left : step.milestone ∉ milestones) : ¬ ExactList milestones none := by
  intro exact
  have listed := (exact step).mpr left
  cases step <;> cases listed

attribute [local simp] includesCode RecoveryStep.codes RecoveryStep.milestone ErrorCode.value Milestone.decisive Milestone.premature

theorem installExited_exact (status : ExitStatus) : ExactList [.installExited status,.opened] (some status) ↔ status.val ≤ 2 := by
  obtain ⟨n,positive⟩ := status
  constructor
  · intro exact
    have listed := (exact .createGenesisBlock).mpr (by simp)
    simp at listed
    change n ≤ 2
    omega
  · intro low step
    have either : n = 1 ∨ n = 2 := by
      change n ≤ 2 at low
      omega
    rcases either with rfl | rfl
    · cases step <;> simp
    · cases step <;> simp

theorem startFailed_exact (failed : StartFailed [.genesisCreated,.opened] code reached) :
    ExactList reached (some code.value) ↔ ∃ mark ∈ reached, mark.decisive := by
  cases failed with
  | before =>
    apply iff_of_false _ (by simp)
    intro exact
    have listed := (exact .backupLegacyDataDir).mpr (by simp)
    simp at listed
  | backup =>
    refine iff_of_true ?_ ⟨.backupFailed,by simp,trivial⟩
    intro step
    cases step <;> simp
  | copy =>
    refine iff_of_true ?_ ⟨.copyFailed,by simp,trivial⟩
    intro step
    cases step <;> simp
  | after =>
    refine iff_of_true ?_ ⟨.copied,by simp,trivial⟩
    intro step
    cases step <;> simp

theorem failedAt_exact (failed : FailedAt milestones code commandSet) :
    ExactList milestones code ↔ ∃ mark ∈ milestones, mark.decisive := by
  cases failed with
  | early => exact iff_of_false (uncoded_inexact .createGenesisBlock (by simp)) (by simp)
  | opened => exact iff_of_false (uncoded_inexact .createGenesisBlock (by simp)) (by simp)
  | refused =>
    refine iff_of_true ?_ ⟨.configRefused,by simp,trivial⟩
    intro step
    cases step <;> simp
  | install status =>
    rw [installExited_exact]
    simp
  | genesis =>
    refine iff_of_true ?_ ⟨.genesisFailed,by simp,trivial⟩
    intro step
    cases step <;> simp
  | created => exact iff_of_false (uncoded_inexact .backupLegacyDataDir (by simp)) (by simp)
  | start failed => exact startFailed_exact failed

theorem listed_sections (step : RecoveryStep) :
    step ∈ (recoverySections host context networkName store code).map RecoverySection.step ↔ includesCode step.codes code = true := by
  have known : step ∈ RecoveryStep.all := by cases step <;> simp [RecoveryStep.all]
  unfold recoverySections
  rw [List.map_map]
  simp only [Function.comp_def,List.map_id',List.mem_filter,known,true_and]

-- On a known network the handler gets as far as the file of the commands.
theorem catchBlock_known (known : context.networkConstant = some network) :
    catchBlock host world context e t = (do
      writeCommandsToExec host world context.networkConstant context.flags.snapshotHeight context.outputDir
        ((recoverySections host context network.name t.store (number e.code)).flatMap RecoverySection.lines)
      cliError (unfinishedMessage context e.message) : Migration Unit) t := by
  unfold catchBlock
  rw [known]
  rfl

theorem recovery_exact_iff (known : context.networkConstant = some network)
    (entered : enterRun host world flags ⟨[],.fresh⟩ = .ok context s)
    (failed : tryBlock host packages rounds world context s = .error e t) :
    catchBlock host world context e t = (do
      writeCommandsToExec host world context.networkConstant context.flags.snapshotHeight context.outputDir
        ((recoverySections host context network.name t.store (number e.code)).flatMap RecoverySection.lines)
      cliError (unfinishedMessage context e.message) : Migration Unit) t ∧
    ((∀ step, step ∈ (recoverySections host context network.name t.store (number e.code)).map RecoverySection.step ↔
        ¬ Completed t.events step) ↔
      ∃ event ∈ t.events, Decisive event) := by
  refine ⟨catchBlock_known known,?_⟩
  rw [passed_any decisive_event,← failedAt_exact (run_failing entered failed)]
  constructor
  · intro listed step
    rw [← listed_sections,listed,completed_iff]
  · intro exact step
    rw [listed_sections,exact,completed_iff]

namespace Sample

-- An offline run on a snapshot that cannot be opened.
def offline : World migrator := fun _ request =>
  match request with
  | .ensureDir _ => .ok ()
  | request => refused request

def offlineFlags : Flags := ⟨some "/out",none,103,none,false,false,100000,some "/snapshot",none,some "mainnet"⟩

def mainnet : NetworkConfigLocal := ⟨"mainnet",tokenIdLskMainnet,16270293⟩

def offlineContext : Context :=
  ⟨offlineFlags,"/home/lisk/.lisk/lisk-core",some "/snapshot",true,
    "4c09e6a781fc4c7bdb936ee815de8f94190f8a7519becd9de2081832be309a99",some mainnet,"/out","/opt/migrator/data"⟩

def offlineStart : Session migrator Store := ⟨[⟨.ensureDir "/out",.ok ()⟩],.fresh⟩

def offlineEnd : Session migrator Store :=
  ⟨[⟨.openDatabase "/snapshot",.error failed⟩,⟨.ensureDir "/out",.ok ()⟩],
    { Store.fresh with tokenIDLsk := some tokenIdLskMainnet, prevSnapshotBlockHeight := some 16270293 }⟩

theorem offline_entered : enterRun host offline offlineFlags ⟨[],.fresh⟩ = .ok offlineContext offlineStart := by rfl

theorem offline_failed : tryBlock host packages 0 offline offlineContext offlineStart = .error (.error "failed" none) offlineEnd := by
  rfl

end Sample

theorem recovery_exact_sample :
    catchBlock Sample.host Sample.offline Sample.offlineContext (.error "failed" none) Sample.offlineEnd = (do
      writeCommandsToExec Sample.host Sample.offline (some Sample.mainnet) 103 "/out"
        ((recoverySections Sample.host Sample.offlineContext "mainnet" Sample.offlineEnd.store
          (number (Thrown.error "failed" none).code)).flatMap RecoverySection.lines)
      cliError (unfinishedMessage Sample.offlineContext "failed") : Migration Unit) Sample.offlineEnd ∧
    ((∀ step, step ∈ (recoverySections Sample.host Sample.offlineContext "mainnet" Sample.offlineEnd.store
          (number (Thrown.error "failed" none).code)).map RecoverySection.step ↔ ¬ Completed Sample.offlineEnd.events step) ↔
      ∃ event ∈ Sample.offlineEnd.events, Decisive event) :=
  recovery_exact_iff rfl Sample.offline_entered (Sample.offline_failed : tryBlock Sample.host Sample.packages 0 _ _ _ = _)

theorem early_failure_unlisted :
    enterRun Sample.host Sample.offline Sample.offlineFlags ⟨[],.fresh⟩ = .ok Sample.offlineContext Sample.offlineStart ∧
    tryBlock Sample.host Sample.packages 0 Sample.offline Sample.offlineContext Sample.offlineStart =
      .error (.error "failed" none) Sample.offlineEnd ∧
    ¬ Completed Sample.offlineEnd.events .createGenesisBlock ∧
    recoverySections Sample.host Sample.offlineContext "mainnet" Sample.offlineEnd.store
      (number (Thrown.error "failed" none).code) = [] := by
  refine ⟨Sample.offline_entered,Sample.offline_failed,?_,?_⟩
  · intro completed
    obtain ⟨command,stdout,member⟩ := completed
    simp [Sample.offlineEnd] at member
  · have uncoded : number (Thrown.error "failed" none).code = none := uncoded_error "failed"
    rw [uncoded]
    rfl

end LiskMigrator
