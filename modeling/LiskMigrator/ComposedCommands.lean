import LiskMigrator.Protocol
import LiskMigrator.RecoveryCommands

namespace LiskMigrator
open Interaction Outcome

-- A command all of whose parts are values that the run has by these events: a
-- database that it opened, the header read from it, the paths and the network.
inductive Composed (host : Host) (packages : Packages) (context : Context) (network : NetworkConfigLocal) (events : List (Event migrator)) :
    RecoveryStep → String → Prop where
  | createGenesisBlock {id : Bytes} (opened : ⟨.openDatabase path,.ok db⟩ ∈ events)
      (read : getBlockHeaderByHeight packages db context.flags.snapshotHeight = .ok (header,id))
      (default : networkOf context.networkIdentifier = some defaultNetwork) :
      Composed host packages context network events .createGenesisBlock
        (genesisBlockCreateCommand network.name (configFilePath host defaultNetwork) context.outputDir header id)
  | backupLegacyDataDir :
      Composed host packages context network events .backupLegacyDataDir (backupLegacyDataDirCommand host context)
  | copyLegacyDB : Composed host packages context network events .copyLegacyDB copyLegacyDBCommand
  | startLiskCore (arguments : String) :
      Composed host packages context network events .startLiskCore (baseStartCommand network.name ++ arguments)

theorem Composed.later {step : RecoveryStep} (composed : Composed host packages context network events step command)
    (kept : ∀ event ∈ events, event ∈ more) : Composed host packages context network more step command := by
  cases composed with
  | createGenesisBlock opened read default => exact .createGenesisBlock (kept _ opened) read default
  | backupLegacyDataDir => exact .backupLegacyDataDir
  | copyLegacyDB => exact .copyLegacyDB
  | startLiskCore arguments => exact .startLiskCore arguments

-- The two variables that hold a command, where they are set, and what has been
-- answered so far of what counts.
structure Commanded (host : Host) (packages : Packages) (context : Context) (facts : List (Event migrator)) (s : Session migrator Store) :
    Prop where
  genesis : ∀ command, s.store.genesisBlockCreateCommand = some command → ∃ network, context.networkConstant = some network ∧
    Composed host packages context network s.events .createGenesisBlock command
  start : ∀ command, s.store.liskCoreStartCommand = some command → ∃ network, context.networkConstant = some network ∧
    Composed host packages context network s.events .startLiskCore command
  answered : ∀ event ∈ facts, event ∈ s.events

section Rules
variable {host : Host} {packages : Packages} {rounds : Nat} {world : World migrator} {context : Context} {facts : List (Event migrator)}
  {s t : Session migrator Store}

theorem Commanded.remembered (commanded : Commanded host packages context facts s) (same : t.store.remembered = s.store.remembered)
    (kept : ∀ event ∈ s.events, event ∈ t.events) : Commanded host packages context facts t := by
  have genesis : t.store.genesisBlockCreateCommand = s.store.genesisBlockCreateCommand := congrArg (fun shown => shown.1.1) same
  have start : t.store.liskCoreStartCommand = s.store.liskCoreStartCommand := congrArg Prod.snd same
  refine ⟨?_,?_,fun event member => kept event (commanded.answered event member)⟩
  · intro command set
    obtain ⟨network,known,composed⟩ := commanded.genesis command (genesis ▸ set)
    exact ⟨network,known,composed.later kept⟩
  · intro command set
    obtain ⟨network,known,composed⟩ := commanded.start command (start ▸ set)
    exact ⟨network,known,composed.later kept⟩

theorem Commanded.event (commanded : Commanded host packages context facts s) (event : Event migrator) :
    Commanded host packages context (event :: facts) ⟨event :: s.events,s.store⟩ := by
  have later : Commanded host packages context facts ⟨event :: s.events,s.store⟩ :=
    commanded.remembered rfl (fun _ member => List.mem_cons_of_mem event member)
  refine ⟨later.genesis,later.start,?_⟩
  intro other member
  rcases List.mem_cons.mp member with rfl | earlier
  · exact List.mem_cons_self
  · exact later.answered other earlier

theorem Commanded.bare (commanded : Commanded host packages context facts s) : Commanded host packages context [] s :=
  ⟨commanded.genesis,commanded.start,fun _ never => absurd never List.not_mem_nil⟩

abbrev Composes (host : Host) (packages : Packages) (context : Context) (facts : List (Event migrator)) (x : Migration α) : Prop :=
  Sustains (Commanded host packages context facts) x

theorem composes_quiet {x : Migration α} (quiet : Quiet fails x) : Composes host packages context facts x := by
  intro s commanded
  apply ends_imp (quiet s)
  · exact fun _ _ follows => commanded.remembered follows.store (fun _ member => follows.mem member)
  · exact fun _ _ failed => commanded.remembered failed.1.store (fun _ member => failed.1.mem member)

theorem composes_ask (request : Request) : Composes host packages context facts (ask world request) :=
  sustains_ask world request (fun _ _ commanded => commanded.remembered rfl (fun _ member => List.mem_cons_of_mem _ member))

theorem composes_configured (config : Option Json) :
    Composes host packages context facts (update (fun store : Store => { store with configCoreV4 := config })) :=
  sustains_update _ (fun _ commanded => ⟨commanded.genesis,commanded.start,commanded.answered⟩)

-- The database is the one that was opened.
theorem createAssets_commanded (commanded : Commanded host packages context [] s) : Ends (createAssets packages rounds world context) s
    (fun made t => Commanded host packages context [⟨.openDatabase made.1,.ok made.2.1⟩] t)
    (fun _ t => Commanded host packages context [] t) := by
  apply ends_bind (composes_quiet quiet_setTokenID s commanded)
  intro _ t commanded
  apply ends_bind (composes_quiet quiet_setPrevSnapshotBlockHeight t commanded)
  intro _ t commanded
  apply ends_bind (composes_quiet quiet_resolveSnapshotPath t commanded)
  intro snapshotDirPath t commanded
  have opens : Ends (settled (ask world (.openDatabase snapshotDirPath))) t
      (fun db u => Commanded host packages context [⟨.openDatabase snapshotDirPath,.ok db⟩] u)
      (fun _ u => Commanded host packages context [] u) := by
    apply ends_settled
    apply ends_ask
    intro reply _
    have answered := commanded.event ⟨.openDatabase snapshotDirPath,reply⟩
    cases reply with
    | ok db => exact answered
    | error fault => exact answered.bare
  apply ends_bind opens
  intro db t commanded
  have rest : Composes host packages context [⟨.openDatabase snapshotDirPath,.ok db⟩] (do
      let store ← readStore
      ofProcess (CreateAsset.init packages rounds db context.flags.snapshotHeight (store.tokenIDLsk.getD "") context.flags.pageSize)) :=
    sustains_bind sustains_readStore (fun _ => composes_quiet (quiet_ofProcess _))
  have made := ends_imp (rest t commanded) (fun _ _ held => held) (fun _ _ failed => failed.bare)
  rw [← bind_assoc]
  exact ends_bind made (fun _ _ held => ends_pure held)

theorem composes_migrateConfig : Composes host packages context facts (migrateConfig host world context defaultConfigV4) := by
  apply sustains_ite
  · apply sustains_bind (composes_quiet quiet_getConfig)
    intro configV3
    apply sustains_bind (sustains_settled (composes_ask _))
    intro _
    apply sustains_bind (composes_ask _)
    intro isValidConfig
    have written (config : Json) : Composes host packages context facts (do
        writeConfig world config context.outputDir
        update (fun store => { store with configCoreV4 := some config })) :=
      sustains_bind (sustains_settled (composes_ask _)) (fun _ => composes_configured _)
    exact sustains_ite (sustains_bind (sustains_throw _) (fun _ => written _)) (written _)
  · exact sustains_pure ()

theorem composes_genesisCommand {network : NetworkConfigLocal} {command : String} (known : context.networkConstant = some network)
    (composed : ∀ events, (∀ event ∈ facts, event ∈ events) → Composed host packages context network events .createGenesisBlock command) :
    Composes host packages context facts
      (update (fun store : Store => { store with genesisBlockCreateCommand := some command })) := by
  apply sustains_update
  intro s commanded
  refine ⟨?_,commanded.start,commanded.answered⟩
  intro other set
  cases Option.some.inj set
  exact ⟨network,known,composed s.events commanded.answered⟩

theorem composes_createGenesisBlock {network defaultNetwork : NetworkConfigLocal} {id : Bytes}
    (known : context.networkConstant = some network) (default : networkOf context.networkIdentifier = some defaultNetwork)
    (opened : ⟨.openDatabase path,.ok db⟩ ∈ facts)
    (read : getBlockHeaderByHeight packages db context.flags.snapshotHeight = .ok (header,id)) :
    Composes host packages context facts
      (createGenesisBlock world network.name (configFilePath host defaultNetwork) context.outputDir header id) := by
  apply sustains_handle
  · apply sustains_bind (composes_genesisCommand known (fun _ kept => .createGenesisBlock (kept _ opened) read default))
    exact fun _ => sustains_bind (sustains_executed (composes_ask _)) (fun _ => sustains_pure ())
  · exact fun _ => sustains_throw _

-- The header and the network of the command are those that have been read.
theorem composes_makeGenesisBlock (default : networkOf context.networkIdentifier = some defaultNetwork)
    (opened : ⟨.openDatabase path,.ok db⟩ ∈ facts) :
    Composes host packages context facts (makeGenesisBlock packages world context db (configFilePath host defaultNetwork)) := by
  apply sustains_bind (sustains_bind (sustains_executed (composes_ask _)) (fun _ => sustains_pure ()))
  intro _ s commanded
  have same : ∀ process, Commanded host packages context facts ⟨s.events,{ s.store with process }⟩ :=
    fun _ => commanded.remembered rfl (fun _ member => member)
  have header : Ends (ofProcess (attempt (getBlockHeaderByHeight packages db context.flags.snapshotHeight))) s
      (fun read t => getBlockHeaderByHeight packages db context.flags.snapshotHeight = .ok read ∧ Commanded host packages context facts t)
      (fun _ t => Commanded host packages context facts t) := by
    unfold Ends ofProcess attempt
    cases getBlockHeaderByHeight packages db context.flags.snapshotHeight with
    | ok read => exact ⟨rfl,same _⟩
    | error failure => exact same _
  apply ends_bind header
  intro read t held
  obtain ⟨read,commanded⟩ := held
  cases known : context.networkConstant with
  | none => exact ends_throw commanded
  | some network => exact composes_createGenesisBlock known default opened read t commanded

theorem customize_based (tries : Nat) (userInput : String) :
    Ends (customizeStartCommand world networkName allowedFlags tries userInput) s
      (fun command _ => ∃ arguments, command = baseStartCommand networkName ++ arguments) (fun _ _ => True) := by
  induction tries generalizing userInput s with
  | zero => exact ends_pure ⟨"",String.append_empty.symm⟩
  | succ numTriesLeft ih =>
    apply ends_ite
    · exact fun _ => ends_pure ⟨" " ++ userInput,String.append_assoc⟩
    · intro _
      apply ends_ite
      · exact fun _ => ends_bind ends_any (fun _ _ _ => ih _)
      · exact fun _ => ends_throw trivial

theorem composes_record {network : NetworkConfigLocal} (known : context.networkConstant = some network) {command : String}
    (based : ∃ arguments, command = baseStartCommand network.name ++ arguments) :
    Composes host packages context facts (recordStartCommand command) := by
  obtain ⟨arguments,rfl⟩ := based
  apply sustains_update
  intro s commanded
  refine ⟨commanded.genesis,?_,commanded.answered⟩
  intro other set
  cases Option.some.inj set
  exact ⟨network,known,.startLiskCore arguments⟩

theorem composes_resolveStartCommand {network : NetworkConfigLocal} (known : context.networkConstant = some network) :
    Composes host packages context facts (resolveLiskCoreStartCommand world network.name configPath) := by
  apply sustains_bind (sustains_settled (composes_ask _))
  intro isUserConfirmed
  apply sustains_ite
  · have based : ∃ arguments, baseStartCommand network.name ++ " --config " ++ configPath = baseStartCommand network.name ++ arguments :=
      ⟨" --config " ++ configPath,String.append_assoc⟩
    exact sustains_bind (composes_record known based) (fun _ => sustains_pure _)
  · apply sustains_bind (sustains_settled (composes_ask _))
    intro userInput
    apply sustains_bind (sustains_executed (composes_ask _))
    intro allowedFlags s commanded
    have chosen := ends_and (customize_based 3 userInput : Ends (customizeStartCommand world network.name (allowedFlagsArray allowedFlags) 3
      userInput) s _ _) (composes_quiet (quiet_customize 3 userInput) s commanded)
    apply ends_bind (ends_imp chosen (fun _ _ held => held) (fun _ _ failed => failed.2))
    intro command t held
    exact sustains_bind (composes_record known held.1) (fun _ => sustains_pure _) t held.2

theorem composes_launch {network : NetworkConfigLocal} (known : context.networkConstant = some network) :
    Composes host packages context facts (launchLiskCore host world network.name outputDir) := by
  apply sustains_bind (composes_quiet (quiet_getFinalConfigPath fun _ => True))
  intro configPath
  apply sustains_bind (composes_resolveStartCommand known)
  intro script
  apply sustains_bind (sustains_settled (composes_ask _))
  intro isUserConfirmed
  apply sustains_bind (sustains_cliErrorIf _ _)
  intro _
  apply sustains_bind (composes_quiet quiet_installPM2)
  intro _
  apply sustains_bind (sustains_settled (composes_ask _))
  intro _
  exact sustains_bind (sustains_executed (composes_ask _)) (fun _ => sustains_pure ())

theorem composes_backup : Composes host packages context facts (backupLegacyDataDir host world liskCoreV3DataPath) := by
  have renames : Composes host packages context facts (settled (ask world (.rename liskCoreV3DataPath (liskV3BackupDataDir host.homedir)))) :=
    sustains_settled (composes_ask _)
  apply sustains_handle
  · exact sustains_ite (sustains_bind (sustains_settled (composes_ask _)) (fun _ => renames)) renames
  · exact fun _ => sustains_throw _

theorem composes_startLiskCore {network : NetworkConfigLocal} (known : context.networkConstant = some network) :
    Composes host packages context facts (startLiskCore host world liskCorePath config network.name outputDir) := by
  apply sustains_handle
  · apply sustains_bind (composes_quiet quiet_checkPorts)
    intro _
    apply sustains_bind composes_backup
    intro _
    apply sustains_bind (sustains_handle (sustains_settled (composes_ask _)) (fun _ => sustains_throw _))
    exact fun _ => composes_launch known
  · exact fun _ => sustains_throw _

theorem composes_autoStart : Composes host packages context facts (autoStart host world context defaultConfigV4 snapshotDirPath) := by
  unfold autoStart
  split
  · exact sustains_pure ()
  · apply sustains_handle
    · have starts : Composes host packages context facts (do
          let network ← defined context.networkConstant "name"
          autoStartLiskCore host world context network.name snapshotDirPath) := by
        cases known : context.networkConstant with
        | none => exact sustains_throw _
        | some network =>
          apply sustains_bind (sustains_executed (composes_ask _))
          intro liskCoreExecPath
          apply sustains_bind (sustains_settled (composes_ask _))
          intro _
          apply sustains_bind (sustains_settled (composes_ask _))
          intro isLiskCoreV3Stopped
          apply sustains_ite
          · apply sustains_bind (composes_quiet (quiet_awaitStopped 3))
            intro _
            apply sustains_bind sustains_readStore
            intro store
            apply sustains_bind (sustains_settled (composes_ask _))
            intro isUserConfirmed
            exact sustains_ite (composes_startLiskCore known) (sustains_pure ())
          · exact sustains_throw _
      split
      · exact sustains_bind (composes_configured _) (fun _ => starts)
      · exact starts
    · exact fun _ => sustains_throw _

theorem tryBlock_commanded (commanded : Commanded host packages context [] s) : Ends (tryBlock host packages rounds world context) s
    (fun _ _ => True) (fun _ t => Commanded host packages context [] t) := by
  apply ends_bind (composes_quiet quiet_prepareSnapshot s commanded)
  intro _ t commanded
  apply ends_bind (createAssets_commanded commanded)
  intro made t commanded
  have rest : Composes host packages context [⟨.openDatabase made.1,.ok made.2.1⟩] (do
      let defaultConfigFilePath ← resolveConfigPathByNetworkID host context.networkIdentifier
      let defaultConfigV4 ← settled (ask world (.readDefaultConfig defaultConfigFilePath))
      writeGenesisAssets host world made.2.2 context.outputDir
      migrateConfig host world context defaultConfigV4
      makeGenesisBlock packages world context made.2.1 defaultConfigFilePath
      writeGenesisBlock host world context.outputDir
      autoStart host world context defaultConfigV4 made.1) := by
    unfold resolveConfigPathByNetworkID
    cases default : networkOf context.networkIdentifier with
    | none => exact sustains_throw _
    | some defaultNetwork =>
      apply sustains_bind (sustains_settled (composes_ask _))
      intro defaultConfigV4
      apply sustains_bind (sustains_settled (composes_ask _))
      intro _
      apply sustains_bind composes_migrateConfig
      intro _
      apply sustains_bind (composes_makeGenesisBlock default (List.mem_singleton.mpr rfl))
      intro _
      apply sustains_bind (composes_quiet quiet_writeGenesisBlock)
      exact fun _ => composes_autoStart
  exact ends_imp (rest t commanded) (fun _ _ _ => trivial)
    (fun _ _ failed => failed.bare)

theorem failed_commanded (entered : enterRun host world flags ⟨[],.fresh⟩ = .ok context s)
    (failed : tryBlock host packages rounds world context s = .error e t) : Commanded host packages context [] t := by
  have start : Commanded host packages context [] ⟨[],.fresh⟩ :=
    ⟨fun _ set => (by cases set),fun _ set => (by cases set),fun _ never => absurd never List.not_mem_nil⟩
  have entering : Composes host packages context [] (enterRun host world flags) := composes_quiet quiet_enterRun
  have commanded := ends_ok (entering _ start) entered
  have left := ends_error (tryBlock_commanded commanded) failed
  exact left

end Rules

-- Of the four commands only the one for the genesis block may be missing.
theorem commands_composed_iff {host : Host} {packages : Packages} {context : Context} {network : NetworkConfigLocal}
    (commanded : Commanded host packages context [] t) (known : context.networkConstant = some network) (code : Option Nat) :
    (∀ recovery ∈ recoverySections host context network.name t.store code,
        ∃ command, recovery.command = some command ∧ Composed host packages context network t.events recovery.step command) ↔
      (includesCode RecoveryStep.createGenesisBlock.codes code = true → t.store.genesisBlockCreateCommand.isSome = true) := by
  constructor
  · intro composed listed
    have member : (⟨.createGenesisBlock,t.store.genesisBlockCreateCommand⟩ : RecoverySection) ∈
        recoverySections host context network.name t.store code :=
      List.mem_map.mpr ⟨.createGenesisBlock,List.mem_filter.mpr ⟨by simp [RecoveryStep.all],listed⟩,rfl⟩
    obtain ⟨command,set,_⟩ := composed _ member
    exact Option.isSome_iff_exists.mpr ⟨command,set⟩
  · intro set recovery member
    obtain ⟨step,inFilter,rfl⟩ := List.mem_map.mp member
    cases step with
    | createGenesisBlock =>
      obtain ⟨command,set⟩ := Option.isSome_iff_exists.mp (set (List.mem_filter.mp inFilter).2)
      obtain ⟨other,same,composed⟩ := commanded.genesis command set
      cases known.symm.trans same
      exact ⟨command,set,composed⟩
    | backupLegacyDataDir => exact ⟨_,rfl,.backupLegacyDataDir⟩
    | copyLegacyDB => exact ⟨_,rfl,.copyLegacyDB⟩
    | startLiskCore =>
      refine ⟨_,rfl,?_⟩
      cases set : t.store.liskCoreStartCommand with
      | none =>
        have base : baseStartCommand network.name ++ "" = baseStartCommand network.name := String.append_empty
        exact base ▸ .startLiskCore ""
      | some command =>
        obtain ⟨other,same,composed⟩ := commanded.start command set
        cases known.symm.trans same
        exact composed

end LiskMigrator
