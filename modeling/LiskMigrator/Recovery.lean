import LiskMigrator.Milestones

namespace LiskMigrator
open Interaction Outcome Words

-- How far a run has come, and whether the command for the genesis block is set.
structure At (milestones : List Milestone) (commandSet : Bool) (s : Session migrator Store) : Prop where
  passed : passed s.events = milestones
  command : s.store.genesisBlockCreateCommand.isSome = commandSet

section Rules
variable {milestones : List Milestone} {commandSet : Bool} {s t : Session migrator Store}

theorem At.follows (reached : At milestones commandSet s) (follows : Follows Plain Store.untouched s t) :
    At milestones commandSet t := by
  have same : t.store.genesisBlockCreateCommand = s.store.genesisBlockCreateCommand := congrArg Prod.fst follows.store
  refine ⟨(passed_follows follows).trans reached.passed,?_⟩
  rw [same]
  exact reached.command

theorem At.plain {event : Event migrator} (reached : At milestones commandSet s) (plain : milestone event = none) :
    At milestones commandSet ⟨event :: s.events,s.store⟩ :=
  ⟨(List.filterMap_cons_none plain).trans reached.passed,reached.command⟩

theorem At.passes {event : Event migrator} (reached : At milestones commandSet s) (passes : milestone event = some next) :
    At (next :: milestones) commandSet ⟨event :: s.events,s.store⟩ :=
  ⟨(List.filterMap_cons_some passes).trans (congrArg (next :: ·) reached.passed),reached.command⟩

theorem at_untouched {fails : Thrown → Prop} {x : Migration α} (reached : At milestones commandSet s)
    (keeps : Keeps Plain Store.untouched fails x) :
    Ends x s (fun _ t => At milestones commandSet t) (fun e t => At milestones commandSet t ∧ fails e) := by
  apply ends_imp (keeps s)
  · intro a t follows
    exact reached.follows follows
  · intro e t follows
    exact ⟨reached.follows follows.1,follows.2⟩

theorem at_quiet {fails : Thrown → Prop} {x : Migration α} (reached : At milestones commandSet s) (quiet : Quiet fails x) :
    Ends x s (fun _ t => At milestones commandSet t) (fun e t => At milestones commandSet t ∧ fails e) :=
  at_untouched reached (quiet_untouched quiet)

end Rules

-- Where the start of Lisk Core v4 fails, by the code that it then throws: before
-- the backup, in it, in the copy of the database, or after that.
inductive StartFailed (milestones : List Milestone) : ErrorCode → List Milestone → Prop where
  | before : StartFailed milestones .liskCoreStart milestones
  | backup : StartFailed milestones .backupLegacyDataDir (.backupFailed :: milestones)
  | copy : StartFailed milestones .copyLegacyDB (.copyFailed :: .backedUp :: milestones)
  | after : StartFailed milestones .liskCoreStart (.copied :: .backedUp :: milestones)

section Start
variable {host : Host} {world : World migrator} {milestones : List Milestone} {commandSet : Bool}
  {s t : Session migrator Store}

-- The failure of a start, of which the milestones and the code are known.
def FailedStart (milestones : List Milestone) (commandSet : Bool) (e : Thrown) (t : Session migrator Store) : Prop :=
  ∃ reached, StartFailed milestones (e.codeOr .liskCoreStart) reached ∧ At reached commandSet t

theorem failed_before {e : Thrown} (reached : At milestones commandSet t) (foreign : Foreign e) :
    FailedStart milestones commandSet e t := by
  refine ⟨milestones,?_,reached⟩
  rw [foreign .liskCoreStart]
  exact .before

theorem foreign_start {x : Migration α} (reached : At milestones commandSet s) (quiet : Quiet Foreign x) :
    Ends x s (fun _ t => At milestones commandSet t) (FailedStart milestones commandSet) :=
  ends_imp (at_quiet reached quiet) (fun _ _ held => held) (fun _ _ failed => failed_before failed.1 failed.2)

theorem quiet_start {x : Migration α} (reached : At milestones commandSet s) (quiet : Quiet Ordinary x) :
    Ends x s (fun _ t => At milestones commandSet t) (FailedStart milestones commandSet) :=
  foreign_start reached (quiet_foreign quiet)

theorem rename_ends (reached : At milestones commandSet s) :
    Ends (settled (ask world (.rename src dest))) s (fun _ t => At (.backedUp :: milestones) commandSet t)
      (fun _ t => At (.backupFailed :: milestones) commandSet t) := by
  apply ends_settled
  apply ends_ask
  intro reply _
  cases reply with
  | ok _ => exact reached.passes rfl
  | error _ => exact reached.passes rfl

theorem mkdir_ends (reached : At milestones commandSet s) :
    Ends (settled (ask world (.mkdir path))) s (fun _ t => At milestones commandSet t)
      (fun _ t => At (.backupFailed :: milestones) commandSet t) := by
  apply ends_settled
  apply ends_ask
  intro reply _
  cases reply with
  | ok _ => exact reached.plain rfl
  | error _ => exact reached.passes rfl

theorem backup_ends (reached : At milestones commandSet s) :
    Ends (backupLegacyDataDir host world liskCorePath) s (fun _ t => At (.backedUp :: milestones) commandSet t)
      (FailedStart milestones commandSet) := by
  apply ends_handle (fun _ t => At (.backupFailed :: milestones) commandSet t)
  · split
    · exact ends_bind (mkdir_ends reached) (fun _ _ held => rename_ends held)
    · exact rename_ends reached
  · intro e t failed
    exact ends_throw ⟨_,.backup,failed⟩

theorem copy_ends (reached : At (.backedUp :: milestones) commandSet s) :
    Ends (copyLegacyDB host world) s (fun _ t => At (.copied :: .backedUp :: milestones) commandSet t)
      (FailedStart milestones commandSet) := by
  apply ends_handle (fun _ t => At (.copyFailed :: .backedUp :: milestones) commandSet t)
  · apply ends_settled
    apply ends_ask
    intro reply _
    cases reply with
    | ok _ => exact reached.passes rfl
    | error _ => exact reached.passes rfl
  · intro e t failed
    exact ends_throw ⟨_,.copy,failed⟩

theorem launch_ends (reached : At milestones commandSet s) :
    Ends (launchLiskCore host world network outputDir) s (fun _ _ => True)
      (fun e t => At milestones commandSet t ∧ Foreign e) := by
  apply ends_bind (at_quiet reached (quiet_getFinalConfigPath Foreign))
  intro configPath t held
  apply ends_bind (at_untouched held untouched_resolveStartCommand)
  intro script t held
  apply ends_bind (at_quiet held (quiet_foreign (keeps_settled (quiet_request fun _ => rfl))))
  intro isUserConfirmed t held
  apply ends_bind (at_quiet held (quiet_foreign (quiet_cliErrorIf _ _)))
  intro _ t held
  apply ends_bind (at_quiet held quiet_installPM2)
  intro _ t held
  apply ends_bind (at_quiet held (quiet_foreign (keeps_settled (quiet_request fun _ => rfl))))
  intro _ t held
  have started : Ends (execAsync world (.startPM2 (Path.resolve host.cwd [outputDir,pm2FileName]))) t (fun _ _ => True)
      (fun e t => At milestones commandSet t ∧ Foreign e) :=
    ends_exec (fun _ _ => trivial) (fun _ _ => ⟨held.plain rfl,fun _ => rfl⟩)
  exact ends_bind started (fun _ _ _ => trivial)

theorem start_ends (reached : At milestones commandSet s) :
    Ends (startLiskCore host world liskCorePath config network outputDir) s (fun _ _ => True)
      (FailedStart milestones commandSet) := by
  apply ends_handle (FailedStart milestones commandSet)
  · apply ends_bind (quiet_start reached quiet_checkPorts)
    intro _ t held
    apply ends_bind (backup_ends held)
    intro _ t held
    apply ends_bind (copy_ends held)
    intro _ t held
    apply ends_imp (launch_ends held)
    · exact fun _ _ done => done
    · intro e t failed
      refine ⟨_,?_,failed.1⟩
      rw [failed.2 .liskCoreStart]
      exact .after
  · intro e t failed
    exact ends_throw failed

theorem autoStartLiskCore_ends (reached : At milestones commandSet s) :
    Ends (autoStartLiskCore host world context networkName snapshotDirPath) s (fun _ _ => True)
      (FailedStart milestones commandSet) := by
  apply ends_bind (foreign_start reached (keeps_executed (quiet_request (fun reply => by cases reply <;> rfl))))
  intro liskCoreExecPath t held
  apply ends_bind (quiet_start held (keeps_settled (quiet_request fun _ => rfl)))
  intro _ t held
  apply ends_bind (quiet_start held (keeps_settled (quiet_request fun _ => rfl)))
  intro isLiskCoreV3Stopped t held
  split
  · apply ends_bind (quiet_start held (quiet_awaitStopped 3))
    intro _ t held
    apply ends_bind (quiet_start held keeps_readStore)
    intro store t held
    apply ends_bind (quiet_start held (keeps_settled (quiet_request fun _ => rfl)))
    intro isUserConfirmed t held
    split
    · exact start_ends held
    · exact ends_pure trivial
  · exact ends_imp (quiet_start held (quiet_raise _)) (fun _ _ _ => trivial) (fun _ _ failed => failed)

end Start

-- All the ways in which the try block can fail: the milestones it has passed,
-- the code of the error as a number, and whether the genesis command is set.
inductive FailedAt : List Milestone → Option Nat → Bool → Prop where
  | early : FailedAt [] none false
  | opened : FailedAt [.opened] none false
  | refused : FailedAt [.configRefused,.opened] (some 1) false
  | install (status : ExitStatus) : FailedAt [.installExited status,.opened] (some status) false
  | genesis : FailedAt [.genesisFailed,.opened] (some 2) true
  | created : FailedAt [.genesisCreated,.opened] none true
  | start (failed : StartFailed [.genesisCreated,.opened] code reached) : FailedAt reached (some code.value) true

def Failing (e : Thrown) (t : Session migrator Store) : Prop :=
  FailedAt (passed t.events) (number e.code) t.store.genesisBlockCreateCommand.isSome

section TryBlock
variable {host : Host} {packages : Packages} {rounds : Nat} {world : World migrator} {context : Context}
  {s t : Session migrator Store}

theorem At.failing {e : Thrown} (reached : At milestones commandSet t) (failed : FailedAt milestones (number e.code) commandSet) :
    Failing e t := by
  unfold Failing
  rw [reached.passed,reached.command]
  exact failed

theorem quiet_failing {x : Migration α} (reached : At milestones commandSet s) (quiet : Quiet Ordinary x)
    (failed : FailedAt milestones none commandSet) :
    Ends x s (fun _ t => At milestones commandSet t) Failing := by
  apply ends_imp (at_quiet reached quiet)
  · exact fun _ _ held => held
  · intro e t ended
    have uncoded : number e.code = none := ordinary_uncoded ended.2
    exact ended.1.failing (uncoded ▸ failed)

theorem open_ends (reached : At [] false s) :
    Ends (settled (ask world (.openDatabase path))) s (fun _ t => At [.opened] false t) Failing := by
  apply ends_settled
  apply ends_ask
  intro reply _
  cases reply with
  | ok _ => exact reached.passes rfl
  | error fault =>
    have uncoded : number fault.thrown.code = none := uncoded_fault fault
    exact (reached.plain rfl).failing (uncoded ▸ .early)

theorem createAssets_ends (reached : At [] false s) :
    Ends (createAssets packages rounds world context) s (fun _ t => At [.opened] false t) Failing := by
  apply ends_bind (quiet_failing reached quiet_setTokenID .early)
  intro _ t held
  apply ends_bind (quiet_failing held quiet_setPrevSnapshotBlockHeight .early)
  intro _ t held
  apply ends_bind (quiet_failing held quiet_resolveSnapshotPath .early)
  intro snapshotDirPath t held
  apply ends_bind (open_ends held)
  intro db t held
  apply ends_bind (quiet_failing held keeps_readStore .opened)
  intro store t held
  apply ends_bind (quiet_failing held (quiet_ofProcess _) .opened)
  exact fun _ _ held => ends_pure held

theorem validate_ends (reached : At [.opened] false s) :
    Ends (ask world (.validate config)) s (fun (valid : Bool) t => if valid then At [.opened] false t else At [.configRefused,.opened] false t)
      Failing := by
  apply ends_ask
  intro reply _
  cases reply with
  | true => exact reached.plain rfl
  | false => exact reached.passes rfl

theorem migrateConfig_ends (reached : At [.opened] false s) :
    Ends (migrateConfig host world context defaultConfigV4) s (fun _ t => At [.opened] false t) Failing := by
  unfold migrateConfig
  split
  · apply ends_bind (quiet_failing reached quiet_getConfig .opened)
    intro configV3 t held
    apply ends_bind (quiet_failing held (keeps_settled (quiet_request fun _ => rfl)) .opened)
    intro _ t held
    apply ends_bind (validate_ends held)
    intro valid t held
    cases valid with
    | false =>
      have refused : number (Thrown.migratorException invalidConfig .invalidConfig).code = some 1 := number_decimal 1
      exact ends_throw (held.failing (refused ▸ .refused))
    | true =>
      apply ends_bind (quiet_failing held (keeps_settled (quiet_request fun _ => rfl)) .opened)
      exact fun _ t held => ends_update _ ⟨held.passed,held.command⟩
  · exact ends_pure reached

theorem install_ends (reached : At [.opened] false s) :
    Ends (installLiskCore world) s (fun _ t => At [.opened] false t) Failing := by
  have run : Ends (execAsync world .installLiskCore) s (fun _ t => At [.opened] false t) Failing := by
    apply ends_exec
    · exact fun _ _ => reached.plain rfl
    · intro fault _
      obtain ⟨message,code⟩ := fault
      cases code with
      | exit status =>
        have coded : number (Thrown.childProcess message (.exit status)).code = some status.val := number_decimal status
        exact (reached.passes rfl).failing (coded ▸ .install status)
      | killed =>
        have uncoded : number (Thrown.childProcess message .killed).code = none := number_null
        exact (reached.plain rfl).failing (uncoded ▸ .opened)
      | failed name =>
        have uncoded : number (Thrown.childProcess message (.failed name)).code = none := number_name name
        exact (reached.plain rfl).failing (uncoded ▸ .opened)
  exact ends_bind run (fun _ _ held => ends_pure held)

theorem createGenesisBlock_ends {id : Bytes} (reached : At [.opened] false s) :
    Ends (createGenesisBlock world network configFilepath outputDir header id) s
      (fun _ t => At [.genesisCreated,.opened] true t) Failing := by
  apply ends_handle (fun _ t => At [.genesisFailed,.opened] true t)
  · have set : Ends (update (fun store : Store => { store with
        genesisBlockCreateCommand := some (genesisBlockCreateCommand network configFilepath outputDir header id) })) s
        (fun _ t => At [.opened] true t) (fun (_ : Thrown) t => At [.genesisFailed,.opened] true t) :=
      ends_update _ ⟨reached.passed,rfl⟩
    apply ends_bind set
    intro _ t held
    have run : Ends (execAsync world (.createGenesisBlock (genesisBlockCreateCommand network configFilepath outputDir header id))) t
        (fun _ t => At [.genesisCreated,.opened] true t) (fun _ t => At [.genesisFailed,.opened] true t) :=
      ends_exec (fun _ _ => held.passes rfl) (fun _ _ => held.passes rfl)
    exact ends_bind run (fun _ _ held => ends_pure held)
  · intro e t held
    apply ends_throw
    have coded (message : String) : number (Thrown.migratorException message .genesisBlockCreate).code = some 2 :=
      number_decimal 2
    exact held.failing (coded _ ▸ .genesis)

theorem makeGenesisBlock_ends (reached : At [.opened] false s) :
    Ends (makeGenesisBlock packages world context db configFilepath) s
      (fun _ t => At [.genesisCreated,.opened] true t) Failing := by
  apply ends_bind (install_ends reached)
  intro _ t held
  apply ends_bind (quiet_failing held (quiet_ofProcess _) .opened)
  intro block t held
  apply ends_bind (quiet_failing held (quiet_defined _ _) .opened)
  exact fun _ _ held => createGenesisBlock_ends held

theorem autoStart_ends (reached : At [.genesisCreated,.opened] true s) :
    Ends (autoStart host world context defaultConfigV4 snapshotDirPath) s (fun _ _ => True) Failing := by
  unfold autoStart
  split
  · exact ends_pure trivial
  · apply ends_handle (FailedStart [.genesisCreated,.opened] true)
    · have start (t : Session migrator Store) (held : At [.genesisCreated,.opened] true t) :
          Ends (do
            let network ← defined context.networkConstant "name"
            autoStartLiskCore host world context network.name snapshotDirPath) t (fun _ _ => True)
            (FailedStart [.genesisCreated,.opened] true) :=
        ends_bind (quiet_start held (quiet_defined _ _)) (fun _ _ held => autoStartLiskCore_ends held)
      split
      · have based : Ends (update (fun store : Store => { store with configCoreV4 := some defaultConfigV4.value })) s
            (fun _ t => At [.genesisCreated,.opened] true t) (FailedStart [.genesisCreated,.opened] true) :=
          ends_update _ ⟨reached.passed,reached.command⟩
        exact ends_bind based (fun _ t held => start t held)
      · exact start s reached
    · intro e t failed
      obtain ⟨milestones,failed,held⟩ := failed
      apply ends_throw
      apply held.failing
      rw [migratorException_number]
      exact .start failed

-- The try block from a session that has come nowhere yet: what it may have
-- passed when it fails.
theorem tryBlock_ends (reached : At [] false s) :
    Ends (tryBlock host packages rounds world context) s (fun _ _ => True) Failing := by
  apply ends_bind (quiet_failing reached quiet_prepareSnapshot .early)
  intro _ t held
  apply ends_bind (createAssets_ends held)
  intro assets t held
  apply ends_bind (quiet_failing held quiet_resolveConfigPath .opened)
  intro defaultConfigFilePath t held
  apply ends_bind (quiet_failing held (keeps_settled (quiet_request fun _ => rfl)) .opened)
  intro defaultConfigV4 t held
  apply ends_bind (quiet_failing held (keeps_settled (quiet_request fun _ => rfl)) .opened)
  intro _ t held
  apply ends_bind (migrateConfig_ends held)
  intro _ t held
  apply ends_bind (makeGenesisBlock_ends held)
  intro _ t held
  apply ends_bind (quiet_failing held quiet_writeGenesisBlock .created)
  exact fun _ _ held => autoStart_ends held

theorem enterRun_at (entered : enterRun host world flags ⟨[],.fresh⟩ = .ok context s) : At [] false s := by
  have start : At [] false ⟨[],.fresh⟩ := ⟨rfl,rfl⟩
  have quiet : Ends (enterRun host world flags) ⟨[],.fresh⟩ (fun _ t => At [] false t) _ := at_quiet start quiet_enterRun
  have held := ends_ok quiet entered
  exact held

theorem run_failing (entered : enterRun host world flags ⟨[],.fresh⟩ = .ok context s)
    (failed : tryBlock host packages rounds world context s = .error e t) : Failing e t :=
  ends_error (tryBlock_ends (enterRun_at entered)) failed

end TryBlock
end LiskMigrator
