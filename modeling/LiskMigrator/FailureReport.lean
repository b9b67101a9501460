import LiskMigrator.ComposedCommands
import LiskMigrator.Protocol
import LiskMigrator.RoundBoundary

namespace LiskMigrator
open Interaction Outcome

-- What a look for the forging statuses may show, the newest event first, and the
-- commands for the validators in them.
inductive Looked (host : Host) (context : Context) (network : NetworkConfigLocal) : List (Event migrator) → List String → Prop where
  | absent : Looked host context network [⟨.access (context.forgingStatusPath host),false⟩] []
  | listed (iterated : iterate json = some statuses) (clean : .null ∉ statuses) :
      Looked host context network
        [⟨.readJSON (context.forgingStatusPath host),.ok json⟩,⟨.access (context.forgingStatusPath host),true⟩]
        (statuses.flatMap (validatorCommands (chainIDOf network) context.flags.snapshotHeight
          (Path.resolve host.cwd [context.outputDir,fileNameKeys])))

-- The events of a handler that goes through: behind the look at the statuses it
-- writes the file of the commands, where there is a line for it.
inductive Handled (host : Host) (context : Context) (network : NetworkConfigLocal) (lines : List (Option String)) :
    List (Event migrator) → Prop where
  | spared (looked : Looked host context network events []) (none : lines = []) : Handled host context network lines events
  | written (looked : Looked host context network events postMigration) (some : postMigration ≠ [] ∨ lines ≠ []) :
      Handled host context network lines (⟨.write (context.commandsPath host) (commandsText lines postMigration),.ok ()⟩ :: events)

-- The lines for all that the failure has left undone.
def recoveryLines (host : Host) (context : Context) (network : NetworkConfigLocal) (store : Store) (code : Option Nat) :
    List (Option String) :=
  (recoverySections host context network.name store code).flatMap RecoverySection.lines

inductive PlainError : Thrown → Prop where
  | error : PlainError (.error message code)

section Handler
variable {host : Host} {world : World migrator} {context : Context} {network : NetworkConfigLocal} {s t u : Session migrator Store}

theorem postMigration_iff : getCommandsToExecPostMigration host world (some network) context.flags.snapshotHeight context.outputDir t =
      .ok postMigration u ↔
    ∃ looked, Looked host context network looked postMigration ∧ Answers world t.events looked ∧ u = ⟨looked ++ t.events,t.store⟩ := by
  constructor
  · intro ran
    obtain ⟨found,_,asked,rest⟩ := step_ok.mp ran
    obtain ⟨accessed,rfl⟩ := ask_ok.mp asked
    cases found with
    | false =>
      cases rest
      exact ⟨_,.absent,⟨accessed,trivial⟩,rfl⟩
    | true =>
      obtain ⟨json,_,asked,rest⟩ := step_ok.mp rest
      obtain ⟨read,rfl⟩ := ask_ok.mp (settled_answer asked)
      obtain ⟨_,_,known,rest⟩ := step_ok.mp rest
      cases known
      cases iterated : iterate json with
      | none =>
        rw [iterated] at rest
        cases rest
      | some statuses =>
        rw [iterated] at rest
        obtain ⟨clean,rfl,rfl⟩ := (validatorSections_ok host).mp rest
        exact ⟨_,.listed iterated clean,⟨read,accessed,trivial⟩,rfl⟩
  · intro given
    obtain ⟨looked,shown,answered,rfl⟩ := given
    cases shown with
    | absent => exact step_next _ (ask_ok.mpr ⟨answered.1,rfl⟩)
    | @listed json statuses iterated clean =>
      obtain ⟨read,accessed,_⟩ := answered
      have opened : settled (ask world (.readJSON (context.forgingStatusPath host)))
          ⟨⟨.access (context.forgingStatusPath host),true⟩ :: t.events,t.store⟩ = .ok json _ :=
        settled_ran (ask_ok.mpr ⟨read,rfl⟩)
      refine (step_next _ (ask_ok.mpr ⟨accessed,rfl⟩)).trans ((step_next _ opened).trans ?_)
      simp only [defined,pure_bind,iterated]
      exact (validatorSections_ok host).mpr ⟨clean,rfl,rfl⟩

theorem writeCommands_iff {lines : List (Option String)} :
    writeCommandsToExec host world (some network) context.flags.snapshotHeight context.outputDir lines t = .ok () u ↔
    ∃ own, Handled host context network lines own ∧ Answers world t.events own ∧ u = ⟨own ++ t.events,t.store⟩ := by
  unfold writeCommandsToExec
  rw [step_ok]
  simp only [ne_eq,List.length_eq_zero_iff]
  constructor
  · intro ran
    obtain ⟨postMigration,middle,listed,rest⟩ := ran
    obtain ⟨looked,shown,answered,rfl⟩ := postMigration_iff.mp listed
    by_cases some : ¬ postMigration = [] ∨ ¬ lines = []
    · rw [if_pos some] at rest
      obtain ⟨written,rfl⟩ := ask_ok.mp (settled_answer rest)
      exact ⟨_,.written shown some,⟨written,answered⟩,rfl⟩
    · rw [if_neg some] at rest
      cases rest
      obtain ⟨nothing,none⟩ := not_or.mp some
      cases not_not.mp nothing
      exact ⟨looked,.spared shown (not_not.mp none),answered,rfl⟩
  · intro given
    obtain ⟨own,handled,answered,rfl⟩ := given
    cases handled with
    | spared looked none =>
      refine ⟨[],_,postMigration_iff.mpr ⟨own,looked,answered,rfl⟩,?_⟩
      rw [if_neg (by simp [none])]
      rfl
    | written looked some =>
      refine ⟨_,_,postMigration_iff.mpr ⟨_,looked,answered.2,rfl⟩,?_⟩
      rw [if_pos some]
      exact settled_ran (ask_ok.mpr ⟨answered.1,rfl⟩)

theorem plain_settled {x : Migration (Except Fault α)} (asks : Ends x s (fun _ _ => True) (fun e _ => PlainError e)) :
    Ends (settled x) s (fun _ _ => True) (fun e _ => PlainError e) := by
  apply ends_bind asks
  intro reply t _
  cases reply with
  | ok value => exact ends_pure trivial
  | error fault => exact ends_throw .error

theorem plain_sections (statuses : List Json) :
    Ends (validatorSections host chainID snapshotHeight outputDir statuses) s (fun _ _ => True) (fun e _ => PlainError e) := by
  induction statuses generalizing s with
  | nil => exact ends_pure trivial
  | cons status rest ih =>
    have first : Ends (validatorSection host chainID snapshotHeight outputDir status) s (fun _ _ => True) (fun e _ => PlainError e) := by
      unfold validatorSection
      split
      · exact ends_throw .error
      · exact ends_pure trivial
    exact ends_bind first (fun _ _ _ => ends_bind ih (fun _ _ _ => ends_pure trivial))

theorem plain_postMigration : Ends (getCommandsToExecPostMigration host world (some network) snapshotHeight outputDir) s
    (fun _ _ => True) (fun e _ => PlainError e) := by
  apply ends_bind (ends_ask world (fun _ _ => trivial) : Ends _ _ (fun _ _ => True) _)
  intro found t _
  apply ends_ite
  · intro _
    apply ends_bind (plain_settled (ends_ask world (fun _ _ => trivial)))
    intro json t _
    apply ends_bind (ends_pure trivial : Ends (defined (some network) "tokenID") t (fun _ _ => True) _)
    intro network t _
    split
    · exact ends_throw .error
    · exact plain_sections _
  · exact fun _ => ends_pure trivial

-- What the handler throws by itself is never taken for the report.
theorem plain_writeCommands {lines : List (Option String)} :
    Ends (writeCommandsToExec host world (some network) snapshotHeight outputDir lines) s (fun _ _ => True) (fun e _ => PlainError e) := by
  apply ends_bind plain_postMigration
  intro postMigration t _
  exact ends_ite (fun _ => plain_settled (ends_ask world (fun _ _ => trivial))) (fun _ => ends_pure trivial)

theorem catchBlock_iff (known : context.networkConstant = some network) :
    catchBlock host world context e t = .error (.cliError message) u ↔
      message = unfinishedMessage context e.message ∧
      ∃ own, Handled host context network (recoveryLines host context network t.store (number e.code)) own ∧
        Answers world t.events own ∧ u = ⟨own ++ t.events,t.store⟩ := by
  rw [catchBlock_known known,known,← writeCommands_iff]
  constructor
  · intro ran
    cases written : writeCommandsToExec host world (some network) context.flags.snapshotHeight context.outputDir
        (recoveryLines host context network t.store (number e.code)) t with
    | ok _ v =>
      cases (step_next _ written).symm.trans ran
      exact ⟨rfl,rfl⟩
    | error own v =>
      have plain := ends_error plain_writeCommands written
      cases (step_fails _ written).symm.trans ran
      cases plain
  · intro given
    obtain ⟨rfl,written⟩ := given
    exact step_next _ written

end Handler

attribute [local simp] includesCode RecoveryStep.codes ErrorCode.value Milestone.premature

theorem startFailed_later (failed : StartFailed [.genesisCreated,.opened] code reached) : ¬ ∃ mark ∈ reached, mark.premature := by
  cases failed with
  | before => simp
  | backup => simp
  | copy => simp
  | after => simp

theorem failedAt_premature (failed : FailedAt milestones code commandSet) :
    (includesCode RecoveryStep.createGenesisBlock.codes code = true → commandSet = true) ↔
      ¬ ∃ mark ∈ milestones, mark.premature := by
  cases failed with
  | early => simp
  | opened => simp
  | refused => simp
  | install status =>
    obtain ⟨n,positive⟩ := status
    simp
    omega
  | genesis => simp
  | created => simp
  | start failed => exact iff_of_true (fun _ => rfl) (startFailed_later failed)

-- All commands of the file are known in full exactly where no such event came first.
theorem failed_composed (entered : enterRun host world flags ⟨[],.fresh⟩ = .ok context s)
    (failed : tryBlock host packages rounds world context s = .error e t) (known : context.networkConstant = some network) :
    (∀ recovery ∈ recoverySections host context network.name t.store (number e.code),
        ∃ command, recovery.command = some command ∧ Composed host packages context network t.events recovery.step command) ↔
      ∀ event ∈ t.events, ¬ Premature event := by
  rw [commands_composed_iff (failed_commanded entered failed) known,failedAt_premature (run_failing entered failed),
    ← passed_any premature_event]
  simp

theorem run_failed (entered : enterRun host world flags ⟨[],.fresh⟩ = .ok context s)
    (failed : tryBlock host packages rounds world context s = .error e t) :
    LiskMigrator.run host packages rounds world flags ⟨[],.fresh⟩ = .error report u ↔
      onFailure host world context e t = .error report u := by
  have handled : handle (tryBlock host packages rounds world context) (onFailure host world context) s =
      onFailure host world context e t := by
    unfold handle
    rw [failed]
  unfold LiskMigrator.run
  rw [step_next _ entered,step_bind,handled]
  cases ended : onFailure host world context e t with
  | error _ _ => rfl
  | ok _ v =>
    have throws : Ends (onFailure host world context e) t (fun _ _ => False) (fun _ _ => True) :=
      ends_ite (fun _ => catchBlock_throws) (fun _ => ends_throw trivial)
    exact (ends_ok throws ended).elim

-- The file of the commands is written, in full, and then the user is told of the
-- failure: the run has done no more behind it.
def FailureReported (host : Host) (packages : Packages) (rounds : Nat) (world : World migrator) (flags : Flags) (context : Context)
    (e : Thrown) (t : Session migrator Store) (network : NetworkConfigLocal) : Prop :=
  (∀ recovery ∈ recoverySections host context network.name t.store (number e.code),
    ∃ command, recovery.command = some command ∧ Composed host packages context network t.events recovery.step command) ∧
  ∃ own u, Handled host context network (recoveryLines host context network t.store (number e.code)) own ∧
    u.events = own ++ t.events ∧
    LiskMigrator.run host packages rounds world flags ⟨[],.fresh⟩ = .error (.cliError (unfinishedMessage context e.message)) u

namespace Sample

-- A run on the sample chain for which the genesis block cannot be created. The
-- validators that were forging have been saved before.
def broken : World migrator := fun events request =>
  match request with
  | .access path => path = "/out/forgingStatus.json"
  | .readJSON _ => .ok (.array [.object [("lskAddress",.string "lskabc")]])
  | .exec (.createGenesisBlock _) => .error ⟨"Command failed",.exit ⟨1,Nat.one_pos⟩⟩
  | .write _ _ => .ok ()
  | request => snapshotOf chain events request

def brokenContext : Context := { offlineContext with flags := unevenFlags }

def brokenError : Thrown := .migratorException "Failed to create genesis block.\nError: Command failed" .genesisBlockCreate

def brokenTry : EStateM.Result Thrown (Session migrator Store) Unit :=
  tryBlock host packages 4 broken brokenContext ⟨[⟨.ensureDir "/out",.ok ()⟩],.fresh⟩

theorem broken_entered : enterRun host broken unevenFlags ⟨[],.fresh⟩ = .ok brokenContext ⟨[⟨.ensureDir "/out",.ok ()⟩],.fresh⟩ := by rfl

theorem broken_failed : brokenTry = .error brokenError (left brokenTry) := raised_error (by decide +kernel)

theorem broken_timely : ∀ event ∈ (left brokenTry).events, ¬ Premature event := by
  have reached : passed (left brokenTry).events = [.genesisFailed,.opened] := by decide +kernel
  intro event member premature
  obtain ⟨mark,marked,early⟩ := (premature_event event).mp premature
  have among : mark ∈ passed (left brokenTry).events := List.mem_filterMap.mpr ⟨event,member,marked⟩
  rw [reached] at among
  rcases List.mem_cons.mp among with rfl | among
  · exact early
  · cases List.mem_singleton.mp among
    exact early

-- A node of a network that the program does not know.
def stranger : World migrator := fun _ request =>
  match request with
  | .ensureDir _ => .ok ()
  | .createIPCClient _ => .ok ()
  | .getNodeInfo _ => .ok ⟨"3.1.0","devnet",206⟩
  | request => refused request

def strangerFlags : Flags := ⟨none,none,103,none,false,false,100000,none,none,none⟩

def strangerContext : Context :=
  ⟨strangerFlags,"/home/lisk/.lisk/lisk-core",none,false,"devnet",none,"/opt/migrator/output/devnet","/opt/migrator/data"⟩

def strangerStart : Session migrator Store :=
  ⟨[⟨.ensureDir "/opt/migrator/output/devnet",.ok ()⟩,⟨.getNodeInfo "/home/lisk/.lisk/lisk-core",.ok ⟨"3.1.0","devnet",206⟩⟩,
      ⟨.createIPCClient "/home/lisk/.lisk/lisk-core",.ok ()⟩],
    { Store.fresh with clientCache := ["/home/lisk/.lisk/lisk-core"] }⟩

def strangerEnd : Session migrator Store :=
  ⟨⟨.getNodeInfo "/home/lisk/.lisk/lisk-core",.ok ⟨"3.1.0","devnet",206⟩⟩ :: strangerStart.events,strangerStart.store⟩

end Sample

end LiskMigrator
