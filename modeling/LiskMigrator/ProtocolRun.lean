import LiskMigrator.Library.Monitor
import LiskMigrator.Protocol

namespace LiskMigrator
open Interaction Monitor Outcome Words

section Rules
variable {State : Type} {world : World migrator} {step : State → Event migrator → Option State} {start : State} {before : State → Store → Prop}
  {thrown : Thrown → State → Store → Prop}

theorem guides_settled {x : Migration (Except Fault α)} {normal : α → State → Store → Prop}
    (first : Guides world step start before x (fun reply q store => match reply with
      | .ok value => normal value q store
      | .error fault => thrown fault.thrown q store) thrown) : Guides world step start before (settled x) normal thrown := by
  apply guides_bind first
  intro reply
  cases reply with
  | ok value => exact guides_pure (fun _ _ held => held)
  | error fault => exact guides_throw (fun _ _ held => held)

theorem guides_executed {x : Migration (Except ExecFault String)} {normal : String → State → Store → Prop}
    (first : Guides world step start before x (fun reply q store => match reply with
      | .ok stdout => normal stdout q store
      | .error fault => thrown fault.thrown q store) thrown) : Guides world step start before (executed x) normal thrown := by
  apply guides_bind first
  intro reply
  cases reply with
  | ok stdout => exact guides_pure (fun _ _ held => held)
  | error fault => exact guides_throw (fun _ _ held => held)

theorem guides_raise {message : String} {normal : α → State → Store → Prop}
    (holds : ∀ q store, before q store → thrown (.error message none) q store) :
    Guides world step start before (raise message : Migration α) normal thrown := guides_throw holds

theorem guides_cliErrorIf {condition : Prop} [Decidable condition] {message : String}
    (holds : ∀ q store, before q store → thrown (.cliError message) q store) :
    Guides world step start before (cliErrorIf condition message) (fun _ q store => ¬ condition ∧ before q store) thrown :=
  guides_ite (fun _ => guides_throw holds) (fun fails => guides_pure (fun _ _ held => ⟨fails,held⟩))

theorem guides_raiseIf {condition : Prop} [Decidable condition] {message : String}
    (holds : ∀ q store, before q store → thrown (.error message none) q store) :
    Guides world step start before (raiseIf condition message) (fun _ q store => ¬ condition ∧ before q store) thrown :=
  guides_ite (fun _ => guides_raise holds) (fun fails => guides_pure (fun _ _ held => ⟨fails,held⟩))

theorem guides_defined {value : Option α} {property : String}
    (holds : ∀ q store, before q store → thrown (.error (readUndefined property) none) q store) :
    Guides world step start before (defined value property) (fun known q store => value = some known ∧ before q store) thrown := by
  cases value with
  | none => exact guides_raise holds
  | some known => exact guides_pure (fun _ _ held => ⟨rfl,held⟩)

end Rules

-- A run that stands in a stage, with the variables in some condition.
def Standing (context : Context) (stage : Stage) (ready : Store → Prop) (q : Progress) (store : Store) : Prop :=
  q = .running context stage ∧ ready store

-- An exception leaves the run in whatever stage it was, or in the closing one.
def Halted (context : Context) (_ : Thrown) (q : Progress) (_ : Store) : Prop := ∃ stage, q = .running context stage

-- No assets have been made in the process.
def Unused (store : Store) : Prop := store.process = .fresh

def Anyway (_ : Store) : Prop := True

theorem taking_pos {condition : Prop} [Decidable condition] (holds : condition) (next : State) :
    taking condition next = some next := if_pos holds

section Stages
variable {host : Host} {packages : Packages} {rounds : Nat} {flags : Flags} {world : World migrator} {context : Context}
  {stage : Stage} {ready : Store → Prop} {event : Event migrator}

abbrev Guided (host : Host) (packages : Packages) (rounds : Nat) (world : World migrator) (flags : Flags) (before : Progress → Store → Prop) (x : Migration α)
    (normal : α → Progress → Store → Prop) (thrown : Thrown → Progress → Store → Prop) : Prop :=
  Guides world (protocol host packages rounds flags) (protocolStart host flags) before x normal thrown

theorem step_closing (taken : closingStep host context stage event = some next) :
    stageStep host packages rounds context stage event = some next := by
  simp [stageStep,taken]

theorem step_preparing (apart : closingStep host context stage event = none) (taken : preparingStep context stage event = some next) :
    stageStep host packages rounds context stage event = some next := by
  simp [stageStep,apart,taken]

theorem step_making (apart : closingStep host context stage event = none) (unprepared : preparingStep context stage event = none)
    (taken : makingStep host packages rounds context stage event = some next) :
    stageStep host packages rounds context stage event = some next := by
  simp [stageStep,apart,unprepared,taken]

theorem step_publishing (apart : closingStep host context stage event = none) (unprepared : preparingStep context stage event = none)
    (unmade : makingStep host packages rounds context stage event = none) (taken : publishingStep context stage event = some next) :
    stageStep host packages rounds context stage event = some next := by
  simp [stageStep,apart,unprepared,unmade,taken]

theorem step_starting (apart : closingStep host context stage event = none) (unprepared : preparingStep context stage event = none)
    (unmade : makingStep host packages rounds context stage event = none) (unpublished : publishingStep context stage event = none)
    (taken : startingStep host context stage event = some next) :
    stageStep host packages rounds context stage event = some next := by
  simp [stageStep,apart,unprepared,unmade,unpublished,taken]

-- What is asked in a stage leads to the next one by its answer.
theorem asked_in {request : Request} {next : request.Reply → Stage} {thrown : Thrown → Progress → Store → Prop}
    (taken : ∀ reply, stageStep host packages rounds context stage ⟨request,reply⟩ = some (next reply)) :
    Guided host packages rounds world flags (Standing context stage ready) (ask world request)
      (fun reply => Standing context (next reply) ready) thrown := by
  apply guides_ask
  intro q store reply standing
  obtain ⟨rfl,held⟩ := standing
  refine ⟨.running context (next reply),?_,rfl,held⟩
  change (stageStep host packages rounds context stage ⟨request,reply⟩).map (Progress.running context) = _
  rw [taken reply]
  rfl

theorem settled_in {before : Progress → Store → Prop} {x : Migration (Except Fault α)} {next : α → Stage}
    (asked : Guided host packages rounds world flags before x (fun reply => Standing context (settling reply next) ready) (Halted context)) :
    Guided host packages rounds world flags before (settled x) (fun value => Standing context (next value) ready) (Halted context) := by
  apply guides_settled
  apply guides_imp asked (fun _ _ held => held)
  · intro reply q store standing
    cases reply with
    | ok value => exact standing
    | error fault => exact ⟨.closing,standing.1⟩
  · exact fun _ _ _ halted => halted

theorem executed_in {before : Progress → Store → Prop} {x : Migration (Except ExecFault String)} {next : String → Stage}
    (asked : Guided host packages rounds world flags before x (fun reply => Standing context (settling reply next) ready) (Halted context)) :
    Guided host packages rounds world flags before (executed x) (fun stdout => Standing context (next stdout) ready) (Halted context) := by
  apply guides_executed
  apply guides_imp asked (fun _ _ held => held)
  · intro reply q store standing
    cases reply with
    | ok stdout => exact standing
    | error fault => exact ⟨.closing,standing.1⟩
  · exact fun _ _ _ halted => halted

theorem standing_halted {e : Thrown} (standing : Standing context stage ready q store) : Halted context e q store :=
  ⟨stage,standing.1⟩

theorem closing_access (reply : Bool) : stageStep host packages rounds context stage ⟨.access (context.forgingStatusPath host),reply⟩ =
    some .closing := step_closing (taking_pos rfl _)

theorem cliErrorIf_in {condition : Prop} [Decidable condition] {message : String} :
    Guided host packages rounds world flags (Standing context stage ready) (cliErrorIf condition message)
      (fun _ => Standing context stage ready) (Halted context) :=
  guides_imp (guides_cliErrorIf (fun _ _ => standing_halted)) (fun _ _ held => held) (fun _ _ _ held => held.2) (fun _ _ _ halted => halted)

theorem getAPIClient_in {liskCorePath : String} {force : Bool} (kept : ∀ store cache, ready store → ready { store with clientCache := cache })
    (connects : ∀ reply, stageStep host packages rounds context stage ⟨.createIPCClient liskCorePath,reply⟩ =
      some (settling reply (fun _ => stage))) :
    Guided host packages rounds world flags (Standing context stage ready) (getAPIClient world liskCorePath force)
      (fun _ => Standing context stage ready) (Halted context) := by
  have read : Guided host packages rounds world flags (Standing context stage ready) readStore (fun _ => Standing context stage ready)
      (Halted context) := guides_readStore (fun _ _ held => held)
  apply guides_bind read
  intro store
  apply guides_ite
  · intro _
    apply guides_bind (settled_in (asked_in connects))
    intro _
    exact guides_update _ (fun q store standing => ⟨standing.1,kept store _ standing.2⟩)
  · exact fun _ => guides_pure (fun _ _ held => held)

end Stages

section Snapshot
variable {host : Host} {packages : Packages} {rounds : Nat} {flags : Flags} {world : World migrator} {context : Context}

theorem unused_cache (store : Store) (cache : List String) (unused : Unused store) : Unused { store with clientCache := cache } := unused

theorem verifyNode_in (node : context.source = .node) :
    Guided host packages rounds world flags (Standing context .preparing Unused) (verifyNode host world context)
      (fun _ => Standing context .prepared Unused) (Halted context) := by
  have connects : ∀ reply, stageStep host packages rounds context .preparing ⟨.createIPCClient context.liskCoreV3DataPath,reply⟩ =
      some (settling reply (fun _ => .preparing)) := fun reply => step_preparing rfl (taking_pos ⟨node,rfl⟩ _)
  have informs : ∀ reply, stageStep host packages rounds context .preparing ⟨.getNodeInfo context.liskCoreV3DataPath,reply⟩ =
      some (settling reply (fun _ => .preparing)) := fun reply => step_preparing rfl (taking_pos ⟨node,rfl⟩ _)
  have asked : Guided host packages rounds world flags (Standing context .preparing Unused) (getNodeInfo world context.liskCoreV3DataPath)
      (fun _ => Standing context .preparing Unused) (Halted context) :=
    guides_bind (getAPIClient_in unused_cache connects) (fun _ => settled_in (asked_in informs))
  apply guides_bind asked
  intro nodeInfo
  apply guides_bind cliErrorIf_in
  intro _
  apply guides_bind cliErrorIf_in
  intro _
  have subscribes : ∀ reply, stageStep host packages rounds context .preparing
      ⟨.subscribeNewBlock context.liskCoreV3DataPath context.flags.snapshotHeight context.outputDir,reply⟩ =
      some (settling reply (fun _ => .preparing)) := fun reply => step_preparing rfl (taking_pos ⟨node,rfl,rfl,rfl⟩ _)
  apply guides_bind (settled_in (asked_in subscribes))
  intro _
  apply guides_bind cliErrorIf_in
  intro _
  apply guides_bind cliErrorIf_in
  intro _
  apply guides_bind cliErrorIf_in
  intro _
  have observes : ∀ reply, stageStep host packages rounds context .preparing
      ⟨.observeChainHeight context.liskCoreV3DataPath context.flags.snapshotHeight,reply⟩ = some (settling reply (fun _ => .prepared)) :=
    fun reply => step_preparing rfl (taking_pos ⟨node,rfl,rfl⟩ _)
  exact settled_in (asked_in observes)

theorem getChecksum_in : Guided host packages rounds world flags (Standing context .bothFetched Unused)
    (getChecksum world context.snapshotURL context.outputDir) (fun checksum => Standing context (.expecting checksum) Unused)
    (Halted context) := by
  have reads : ∀ reply, stageStep host packages rounds context .bothFetched ⟨.read (context.tarballPath ++ ".SHA256"),reply⟩ =
      some (settling reply (fun content =>
        if content = "" then .closing else .expecting (String.ofList (content.toList.takeWhile (· ≠ ' '))))) :=
    fun reply => step_preparing rfl (taking_pos rfl _)
  apply guides_bind (settled_in (asked_in reads))
  intro content
  apply guides_bind (guides_raiseIf (fun _ _ => standing_halted))
  intro _
  apply guides_given
  intro filled
  rw [if_neg filled]
  exact guides_pure (fun _ _ held => held)

theorem verifyChecksum_in {checksum : String} : Guided host packages rounds world flags (Standing context (.expecting checksum) Unused)
    (verifyChecksum world context.tarballPath checksum) (fun _ => Standing context .verified Unused) (Halted context) := by
  have sums : ∀ reply, stageStep host packages rounds context (.expecting checksum) ⟨.createChecksum context.tarballPath,reply⟩ =
      some (settling reply (fun fileChecksum => if fileChecksum = checksum then .verified else .closing)) :=
    fun reply => step_preparing rfl (taking_pos rfl _)
  apply guides_bind (settled_in (asked_in sums))
  intro fileChecksum
  apply guides_imp (guides_raiseIf (fun _ _ => standing_halted)) (fun _ _ held => held)
  · intro _ q store held
    obtain ⟨same,standing⟩ := held
    rw [if_pos (not_not.mp same)] at standing
    exact standing
  · exact fun _ _ _ halted => halted

theorem downloadAndExtract_in (remote : context.source = .url context.snapshotURL) :
    Guided host packages rounds world flags (Standing context .preparing Unused)
      (downloadAndExtract world context.snapshotURL context.outputDir context.dataDir) (fun _ => Standing context .prepared Unused)
      (Halted context) := by
  have fetches : ∀ reply, stageStep host packages rounds context .preparing ⟨.download context.snapshotURL context.tarballPath,reply⟩ =
      some (settling reply (fun _ => .fetched)) := fun reply => step_preparing rfl (taking_pos ⟨remote,rfl⟩ _)
  apply guides_bind (settled_in (asked_in fetches))
  intro _
  have fetchesBoth : ∀ reply, stageStep host packages rounds context .fetched
      ⟨.download (context.snapshotURL ++ ".SHA256") (downloadedFilePath (context.snapshotURL ++ ".SHA256") context.outputDir),reply⟩ =
      some (settling reply (fun _ => .bothFetched)) := fun reply => step_preparing rfl (taking_pos ⟨rfl,rfl⟩ _)
  apply guides_bind (settled_in (asked_in fetchesBoth))
  intro _
  apply guides_bind getChecksum_in
  intro checksum
  apply guides_bind verifyChecksum_in
  intro _
  have extracts : ∀ reply, stageStep host packages rounds context .verified ⟨.extractTarBall context.tarballPath context.dataDir,reply⟩ =
      some (settling reply (fun _ => .prepared)) := fun reply => step_preparing rfl (taking_pos ⟨rfl,rfl⟩ _)
  exact settled_in (asked_in extracts)

theorem prepareSnapshot_in : Guided host packages rounds world flags (Standing context (firstStage context) Unused)
    (prepareSnapshot host world context) (fun _ => Standing context .prepared Unused) (Halted context) := by
  apply guides_ite
  · intro useSnapshot
    apply guides_ite
    · intro remote
      have source : context.source = .url context.snapshotURL := by
        unfold Context.source
        rw [if_pos useSnapshot]
        exact if_pos remote
      have first : firstStage context = .preparing := by simp [firstStage,source]
      rw [first]
      exact downloadAndExtract_in source
    · intro near
      apply guides_ite
      · intro packed
        have source : context.source = .tarball (context.snapshotPath.getD "") := by
          unfold Context.source
          rw [if_pos useSnapshot]
          exact (if_neg near).trans (if_pos packed)
        have first : firstStage context = .preparing := by simp [firstStage,source]
        have extracts : ∀ reply, stageStep host packages rounds context .preparing
            ⟨.extractTarBall (context.snapshotPath.getD "") context.dataDir,reply⟩ = some (settling reply (fun _ => .prepared)) :=
          fun reply => step_preparing rfl (taking_pos ⟨source,rfl⟩ _)
        rw [first]
        exact settled_in (asked_in extracts)
      · intro bare
        have source : context.source = .directory := by
          unfold Context.source
          rw [if_pos useSnapshot]
          exact (if_neg near).trans (if_neg bare)
        have first : firstStage context = .prepared := by simp [firstStage,source]
        rw [first]
        exact guides_pure (fun _ _ held => held)
  · intro online
    have source : context.source = .node := by
      unfold Context.source
      exact if_neg online
    have first : firstStage context = .preparing := by simp [firstStage,source]
    rw [first]
    exact verifyNode_in source

end Snapshot

section Assets
variable {host : Host} {packages : Packages} {rounds : Nat} {flags : Flags} {world : World migrator} {context : Context} {db : Database}

-- No assets have been made, and the token is that of the network.
def Tokened (tokenID : String) (store : Store) : Prop := store.process = .fresh ∧ store.tokenIDLsk = some tokenID

-- The stages in which a database may be opened, and where.
def Opens (context : Context) (snapshotDirPath : String) (stage : Stage) : Prop :=
  stage = .located snapshotDirPath ∨ stage = .prepared ∧ context.snapshotDirPath = some snapshotDirPath

theorem resolveSnapshotPath_in {ready : Store → Prop} :
    Guided host packages rounds world flags (Standing context .prepared ready)
      (resolveSnapshotPath world context.useSnapshot context.snapshotPath context.dataDir context.liskCoreV3DataPath)
      (fun path q store => ∃ stage, Opens context path stage ∧ Standing context stage ready q store) (Halted context) := by
  unfold resolveSnapshotPath
  apply guides_ite
  · intro online
    have known : context.snapshotDirPath = some (Path.join [context.liskCoreV3DataPath,snapshotDir]) := if_neg online
    exact guides_pure (fun _ _ held => ⟨.prepared,.inr ⟨rfl,known⟩,held⟩)
  · intro offline
    have useSnapshot : context.useSnapshot = true := not_not.mp offline
    split
    · rename_i path chosen
      have known : context.snapshotDirPath = some path := (if_pos useSnapshot).trans chosen
      exact guides_pure (fun _ _ held => ⟨.prepared,.inr ⟨rfl,known⟩,held⟩)
    · rename_i chosen
      have unknown : context.snapshotDirPath = none := (if_pos useSnapshot).trans chosen
      have lists : ∀ reply, stageStep host packages rounds context .prepared ⟨.getFiles context.dataDir,reply⟩ =
          some (settling reply (listedStage context.dataDir)) :=
        fun reply => step_making rfl rfl (taking_pos ⟨unknown,rfl⟩ _)
      apply guides_bind (settled_in (asked_in lists))
      intro files
      cases files with
      | nil => exact guides_throw (fun _ _ => standing_halted)
      | cons name rest => exact guides_pure (fun _ _ held => ⟨_,.inl rfl,held⟩)

theorem openDatabase_in {ready : Store → Prop} {snapshotDirPath : String} :
    Guided host packages rounds world flags (fun q store => ∃ stage, Opens context snapshotDirPath stage ∧ Standing context stage ready q store)
      (settled (ask world (.openDatabase snapshotDirPath))) (fun db => Standing context (.opened db) ready) (Halted context) := by
  have opens (stage : Stage) (opens : Opens context snapshotDirPath stage) (reply : Except Fault Database) :
      stageStep host packages rounds context stage ⟨.openDatabase snapshotDirPath,reply⟩ = some (settling reply .opened) := by
    rcases opens with rfl | ⟨rfl,known⟩
    · exact step_making rfl rfl (taking_pos rfl _)
    · exact step_making rfl rfl (taking_pos known _)
  intro q s tracks given
  obtain ⟨stage,may,standing⟩ := given
  exact settled_in (asked_in (opens stage may)) q s tracks standing

theorem setTokenID_in : Guided host packages rounds world flags (Standing context .prepared Unused)
    (setTokenIDLskByNetID context.networkIdentifier)
    (fun _ q store => ∃ network, networkOf context.networkIdentifier = some network ∧
      Standing context .prepared (Tokened network.tokenID) q store) (Halted context) := by
  apply guides_bind (guides_defined (fun _ _ => standing_halted))
  intro network
  apply guides_given
  intro known
  exact guides_update _ (fun q store standing => ⟨network,known,standing.1,standing.2,rfl⟩)

theorem setPrevSnapshotBlockHeight_in {tokenID : String} : Guided host packages rounds world flags
    (Standing context .prepared (Tokened tokenID)) (setPrevSnapshotBlockHeightByNetID context.networkIdentifier)
    (fun _ => Standing context .prepared (Tokened tokenID)) (Halted context) := by
  apply guides_bind (guides_defined (fun _ _ => standing_halted))
  intro network
  apply guides_given
  intro _
  exact guides_update _ (fun q store standing => standing)

theorem init_in {tokenID : String} (known : (networkOf context.networkIdentifier).map (·.tokenID) = some tokenID) :
    Guided host packages rounds world flags (Standing context (.opened db) Unused)
      (ofProcess (CreateAsset.init packages rounds db context.flags.snapshotHeight tokenID context.flags.pageSize))
      (fun assets q store => (context.assets packages rounds db).toOption = some assets ∧ Standing context (.opened db) Anyway q store)
      (Halted context) := by
  intro q s tracks given
  obtain ⟨standing,fresh⟩ := given
  unfold Unused at fresh
  unfold Ends ofProcess
  rw [fresh]
  cases made : CreateAsset.init packages rounds db context.flags.snapshotHeight tokenID context.flags.pageSize Process.fresh with
  | ok assets process =>
    refine ⟨q,⟨tracks.ran,tracks.answered⟩,?_,standing,trivial⟩
    unfold Context.assets
    rw [known,Option.getD_some,made]
    rfl
  | error failure process => exact ⟨q,⟨tracks.ran,tracks.answered⟩,.opened db,standing⟩

theorem createAssets_in : Guided host packages rounds world flags (Standing context .prepared Unused)
    (createAssets packages rounds world context)
    (fun made q store => (context.assets packages rounds made.2.1).toOption = some made.2.2 ∧
      Standing context (.opened made.2.1) Anyway q store) (Halted context) := by
  apply guides_bind setTokenID_in
  intro _
  apply guides_some
  intro network
  apply guides_given
  intro known
  apply guides_bind setPrevSnapshotBlockHeight_in
  intro _
  apply guides_bind resolveSnapshotPath_in
  intro snapshotDirPath
  apply guides_bind openDatabase_in
  intro db
  have read : Guided host packages rounds world flags (Standing context (.opened db) (Tokened network.tokenID)) readStore
      (fun shown q store => shown.tokenIDLsk = some network.tokenID ∧ Standing context (.opened db) Unused q store) (Halted context) :=
    guides_readStore (fun q store standing => ⟨standing.2.2,standing.1,standing.2.1⟩)
  apply guides_bind read
  intro store
  apply guides_given
  intro tokened
  rw [tokened]
  apply guides_bind (init_in (congrArg (Option.map (·.tokenID)) known))
  intro assets
  exact guides_pure (fun _ _ made => made)

end Assets

section Genesis
variable {host : Host} {packages : Packages} {rounds : Nat} {flags : Flags} {world : World migrator} {context : Context} {db : Database}

theorem resolveConfigPath_in {stage : Stage} {ready : Store → Prop} : Guided host packages rounds world flags (Standing context stage ready)
    (resolveConfigPathByNetworkID host context.networkIdentifier)
    (fun path q store => (networkOf context.networkIdentifier).map (configFilePath host) = some path ∧ Standing context stage ready q store)
    (Halted context) := by
  apply guides_bind (guides_defined (fun _ _ => standing_halted))
  intro network
  apply guides_given
  intro known
  exact guides_pure (fun _ _ standing => ⟨congrArg (Option.map (configFilePath host)) known,standing⟩)

theorem getConfig_in (migrates : context.migratesConfig = true) (networkID : String) (customConfigPath : Option String) :
    Guided host packages rounds world flags (Standing context (.exported db) Anyway)
      (getConfig host world context.liskCoreV3DataPath networkID customConfigPath) (fun _ => Standing context (.exported db) Anyway)
      (Halted context) := by
  have reads (path : String) : ∀ reply, stageStep host packages rounds context (.exported db) ⟨.readJSON path,reply⟩ =
      some (settling reply (fun _ => .exported db)) := fun reply => step_making rfl rfl (taking_pos migrates _)
  unfold getConfig
  split
  · exact guides_throw (fun _ _ => standing_halted)
  · apply guides_bind (settled_in (asked_in (reads _)))
    intro dataDirConfig
    split
    · exact guides_pure (fun _ _ standing => standing)
    · apply guides_bind (settled_in (asked_in (reads _)))
      intro customConfig
      exact guides_pure (fun _ _ standing => standing)

theorem migrateConfig_in {defaultConfigV4 : ApplicationConfig} : Guided host packages rounds world flags (Standing context (.exported db) Anyway)
    (migrateConfig host world context defaultConfigV4) (fun _ => Standing context (.exported db) Anyway) (Halted context) := by
  apply guides_ite
  · intro wanted
    have migrates : context.migratesConfig = true := by simp [Context.migratesConfig,wanted.1,wanted.2]
    apply guides_bind (getConfig_in migrates _ _)
    intro configV3
    have backs : ∀ reply, stageStep host packages rounds context (.exported db)
        ⟨.createBackup (Path.join [utilsDirname host,"../..","backup"]) configV3,reply⟩ = some (settling reply (fun _ => .exported db)) :=
      fun reply => step_making rfl rfl (taking_pos ⟨migrates,rfl⟩ _)
    apply guides_bind (settled_in (asked_in backs))
    intro _
    have validates (config : Json) : ∀ valid : Bool, stageStep host packages rounds context (.exported db) ⟨.validate config,valid⟩ =
        some (bif valid then .exported db else .closing) := fun valid => step_making rfl rfl (taking_pos migrates _)
    apply guides_bind (asked_in (validates _))
    intro valid
    cases valid with
    | false => exact guides_bind (guides_throw (fun _ _ => standing_halted)) (fun _ => guides_never)
    | true =>
      have writes (config : Json) : ∀ reply, stageStep host packages rounds context (.exported db) ⟨.writeConfig context.outputDir config,reply⟩ =
          some (settling reply (fun _ => .exported db)) := fun reply => step_making rfl rfl (taking_pos ⟨migrates,rfl⟩ _)
      apply guides_bind (settled_in (asked_in (writes _)))
      intro _
      exact guides_update _ (fun _ _ standing => standing)
  · exact fun _ => guides_pure (fun _ _ standing => standing)

theorem createGenesisBlock_in {network configFilepath : String} {header : BlockHeader} {id : Bytes}
    (command : context.genesisCommand host packages db =
      some (genesisBlockCreateCommand network configFilepath context.outputDir header id)) :
    Guided host packages rounds world flags (Standing context (.exported db) Anyway)
      (createGenesisBlock world network configFilepath context.outputDir header id)
      (fun _ => Standing context (.publishing (artefacts host context.outputDir) "") Anyway) (Halted context) := by
  have creates : ∀ reply, stageStep host packages rounds context (.exported db)
      ⟨.exec (.createGenesisBlock (genesisBlockCreateCommand network configFilepath context.outputDir header id)),reply⟩ =
      some (settling reply (fun _ => .publishing (artefacts host context.outputDir) "")) :=
    fun reply => step_making rfl rfl (taking_pos command _)
  apply guides_handle (Halted context)
  · have set : Guided host packages rounds world flags (Standing context (.exported db) Anyway)
        (update (fun store : Store => { store with
          genesisBlockCreateCommand := some (genesisBlockCreateCommand network configFilepath context.outputDir header id) }))
        (fun _ => Standing context (.exported db) Anyway) (Halted context) := guides_update _ (fun _ _ standing => standing)
    apply guides_bind set
    intro _
    apply guides_bind (executed_in (asked_in creates))
    intro _
    exact guides_pure (fun _ _ standing => standing)
  · exact fun _ => guides_throw (fun _ _ halted => halted)

theorem makeGenesisBlock_in {configFilepath : String}
    (located : (networkOf context.networkIdentifier).map (configFilePath host) = some configFilepath) :
    Guided host packages rounds world flags (Standing context (.exported db) Anyway) (makeGenesisBlock packages world context db configFilepath)
      (fun _ => Standing context (.publishing (artefacts host context.outputDir) "") Anyway) (Halted context) := by
  have installs : ∀ reply, stageStep host packages rounds context (.exported db) ⟨.exec .installLiskCore,reply⟩ =
      some (settling reply (fun _ => .exported db)) := fun reply => step_making rfl rfl rfl
  have installed : Guided host packages rounds world flags (Standing context (.exported db) Anyway) (installLiskCore world)
      (fun _ => Standing context (.exported db) Anyway) (Halted context) :=
    guides_bind (executed_in (asked_in installs)) (fun _ => guides_pure (fun _ _ standing => standing))
  apply guides_bind installed
  intro _
  have found : Guided host packages rounds world flags (Standing context (.exported db) Anyway)
      (ofProcess (attempt (getBlockHeaderByHeight packages db context.flags.snapshotHeight)))
      (fun block q store => getBlockHeaderByHeight packages db context.flags.snapshotHeight = .ok block ∧
        Standing context (.exported db) Anyway q store) (Halted context) := by
    intro q s tracks standing
    unfold Ends ofProcess attempt
    cases found : getBlockHeaderByHeight packages db context.flags.snapshotHeight with
    | ok block => exact ⟨q,tracks,rfl,standing⟩
    | error failure => exact ⟨q,tracks,.exported db,standing.1⟩
  apply guides_bind found
  intro block
  apply guides_given
  intro found
  apply guides_bind (guides_defined (fun _ _ => standing_halted))
  intro network
  apply guides_given
  intro known
  obtain ⟨defaultNetwork,same,rfl⟩ := Option.map_eq_some_iff.mp located
  have command : context.genesisCommand host packages db = some (genesisBlockCreateCommand network.name (configFilePath host defaultNetwork)
      context.outputDir block.1 block.2) := by
    unfold Context.genesisCommand
    rw [found,known,same]
    rfl
  exact createGenesisBlock_in command

theorem writeGenesisFile_in {fileName : String} {rest : List Artefact} {hash : String} :
    Guided host packages rounds world flags (Standing context (.publishing (fileArtefacts host context.outputDir fileName ++ rest) hash) Anyway)
      (writeGenesisFile host world context.outputDir fileName)
      (fun _ q store => ∃ hash, Standing context (.publishing rest hash) Anyway q store) (Halted context) := by
  have sums (path : String) (todo : List Artefact) (hash : String) : ∀ reply,
      stageStep host packages rounds context (.publishing (.checksum path :: todo) hash) ⟨.createChecksum path,reply⟩ =
      some (settling reply (fun hash => .publishing todo hash)) := fun reply => step_publishing rfl rfl rfl (taking_pos rfl _)
  have notes (path : String) (todo : List Artefact) (hash : String) : ∀ reply,
      stageStep host packages rounds context (.publishing (.note path :: todo) hash) ⟨.write path hash,reply⟩ =
      some (settling reply (fun _ => .publishing todo hash)) := fun reply => step_publishing rfl rfl rfl (taking_pos ⟨rfl,rfl⟩ _)
  have packs (path dir : String) (todo : List Artefact) (hash : String) : ∀ reply,
      stageStep host packages rounds context (.publishing (.tarball path dir :: todo) hash) ⟨.createTarball path dir,reply⟩ =
      some (settling reply (fun _ => .publishing todo hash)) := fun reply => step_publishing rfl rfl rfl (taking_pos ⟨rfl,rfl⟩ _)
  apply guides_bind (settled_in (asked_in (sums _ _ hash)))
  intro fileHash
  apply guides_bind (settled_in (asked_in (notes _ _ _)))
  intro _
  apply guides_bind (settled_in (asked_in (packs _ _ _ _)))
  intro _
  apply guides_bind (settled_in (asked_in (sums _ _ _)))
  intro tarballHash
  apply guides_imp (settled_in (asked_in (notes _ _ tarballHash))) (fun _ _ held => held)
  · exact fun _ _ _ standing => ⟨tarballHash,standing⟩
  · exact fun _ _ _ halted => halted

theorem writeGenesisBlock_in : Guided host packages rounds world flags
    (Standing context (.publishing (artefacts host context.outputDir) "") Anyway) (writeGenesisBlock host world context.outputDir)
    (fun _ q store => ∃ hash, Standing context (.publishing [] hash) Anyway q store) (Halted context) := by
  apply guides_bind writeGenesisFile_in
  intro _
  apply guides_some
  intro hash
  have last : Guided host packages rounds world flags
      (Standing context (.publishing (fileArtefacts host context.outputDir fileNameGenesisBlockJson ++ []) hash) Anyway)
      (writeGenesisFile host world context.outputDir fileNameGenesisBlockJson)
      (fun _ q store => ∃ hash, Standing context (.publishing [] hash) Anyway q store) (Halted context) := writeGenesisFile_in
  rw [List.append_nil] at last
  exact last

end Genesis

section Start
variable {host : Host} {packages : Packages} {rounds : Nat} {flags : Flags} {world : World migrator} {context : Context} {stage next : Stage}

theorem confirmed_in {question : Question}
    (asks : ∀ reply, stageStep host packages rounds context stage ⟨.confirm question,reply⟩ = some (agreeing reply next)) :
    Guided host packages rounds world flags (Standing context stage Anyway) (settled (ask world (.confirm question)))
      (fun agreed => Standing context (if agreed then next else .closing) Anyway) (Halted context) := settled_in (asked_in asks)

theorem settled_stopping {x : Migration (Except Fault α)}
    (asked : Guided host packages rounds world flags (Standing context .stopping Anyway) x (fun _ => Standing context .stopping Anyway)
      (fun _ => Standing context .stopping Anyway)) :
    Guided host packages rounds world flags (Standing context .stopping Anyway) (settled x) (fun _ => Standing context .stopping Anyway)
      (fun _ => Standing context .stopping Anyway) := by
  apply guides_settled
  apply guides_imp asked (fun _ _ held => held)
  · intro reply q store standing
    cases reply <;> exact standing
  · exact fun _ _ _ standing => standing

-- A look at v3 never fails, and leaves the run where it is.
theorem isLiskCoreV3Running_in {thrown : Thrown → Progress → Store → Prop} :
    Guided host packages rounds world flags (Standing context .stopping Anyway) (isLiskCoreV3Running world context.liskCoreV3DataPath)
      (fun _ => Standing context .stopping Anyway) thrown := by
  have connects : ∀ reply, stageStep host packages rounds context .stopping ⟨.createIPCClient context.liskCoreV3DataPath,reply⟩ =
      some .stopping := fun reply => step_starting rfl rfl rfl rfl (taking_pos rfl _)
  have informs : ∀ reply, stageStep host packages rounds context .stopping ⟨.getNodeInfo context.liskCoreV3DataPath,reply⟩ =
      some .stopping := fun reply => step_starting rfl rfl rfl rfl (taking_pos rfl _)
  have read : Guided host packages rounds world flags (Standing context .stopping Anyway) readStore (fun _ => Standing context .stopping Anyway)
      (fun _ => Standing context .stopping Anyway) := guides_readStore (fun _ _ held => held)
  apply guides_handle (fun _ => Standing context .stopping Anyway)
  · have connected : Guided host packages rounds world flags (Standing context .stopping Anyway)
        (getAPIClient world context.liskCoreV3DataPath true) (fun _ => Standing context .stopping Anyway)
        (fun _ => Standing context .stopping Anyway) := by
      apply guides_bind read
      intro store
      apply guides_ite
      · intro _
        apply guides_bind (settled_stopping (asked_in connects))
        exact fun _ => guides_update _ (fun _ _ standing => standing)
      · exact fun _ => guides_pure (fun _ _ standing => standing)
    apply guides_bind connected
    intro _
    apply guides_bind (settled_stopping (asked_in informs))
    exact fun _ => guides_pure (fun _ _ standing => standing)
  · exact fun _ => guides_pure (fun _ _ standing => standing)

theorem awaitStopped_in {snapshotDirPath : String} (tries : Nat) :
    Guided host packages rounds world flags (Standing context .stopping Anyway) (awaitLiskCoreV3Stopped world context snapshotDirPath tries)
      (fun _ => Standing context .stopping Anyway) (Halted context) := by
  have asks : ∀ reply, stageStep host packages rounds context .stopping ⟨.confirm .liskCoreV3StillRunning,reply⟩ =
      some (agreeing reply .stopping) := fun reply => step_starting rfl rfl rfl rfl rfl
  have refuses {message : String} : Guided host packages rounds world flags (Standing context .stopping Anyway) (raise message : Migration Unit)
      (fun _ _ _ => False) (Halted context) := guides_throw (fun _ _ => standing_halted)
  induction tries with
  | zero => exact guides_pure (fun _ _ standing => standing)
  | succ numTriesLeft ih =>
    apply guides_bind isLiskCoreV3Running_in
    intro isCoreV3Running
    apply guides_ite
    · intro _
      rw [if_pos (Nat.zero_le numTriesLeft)]
      apply guides_bind (confirmed_in asks)
      intro isStopReconfirmed
      cases isStopReconfirmed with
      | false => exact guides_bind (guides_throw (fun _ _ => standing_halted)) (fun _ => guides_never)
      | true =>
        rw [if_pos rfl,if_neg (not_not.mpr rfl)]
        apply guides_ite
        · intro _
          apply guides_bind isLiskCoreV3Running_in
          intro isCoreV3StillRunning
          apply guides_ite
          · exact fun _ => guides_bind refuses (fun _ => guides_never)
          · exact fun _ => ih
        · exact fun _ => ih
    · exact fun _ => guides_pure (fun _ _ standing => standing)

theorem requirePort_in {port : Json} {message : Json → String} :
    Guided host packages rounds world flags (Standing context .agreed Anyway) (requirePort world port message)
      (fun _ => Standing context .agreed Anyway) (Halted context) := by
  have listens : ∀ reply, stageStep host packages rounds context .agreed ⟨.listen port,reply⟩ = some (settling reply (fun _ => .agreed)) :=
    fun reply => step_starting rfl rfl rfl rfl rfl
  have probed : Guided host packages rounds world flags (Standing context .agreed Anyway) (isPortAvailable world port)
      (fun available => Standing context (if available then .agreed else .closing) Anyway) (Halted context) := by
    apply guides_bind (asked_in listens)
    intro reply
    cases reply with
    | ok _ => exact guides_pure (fun _ _ standing => standing)
    | error fault => exact guides_ite (fun _ => guides_pure (fun _ _ standing => standing)) (fun _ => guides_throw (fun _ _ => standing_halted))
  apply guides_bind probed
  intro available
  cases available with
  | true => exact guides_ite (fun never => absurd rfl never) (fun _ => guides_pure (fun _ _ standing => standing))
  | false => exact guides_ite (fun _ => guides_throw (fun _ _ => standing_halted)) (fun never => absurd Bool.false_ne_true never)

theorem backupLegacyDataDir_in : Guided host packages rounds world flags (Standing context .agreed Anyway)
    (backupLegacyDataDir host world context.liskCoreV3DataPath) (fun _ => Standing context .backedUp Anyway) (Halted context) := by
  have makes : ∀ reply, stageStep host packages rounds context .agreed ⟨.mkdir (host.homedir ++ "/.lisk"),reply⟩ =
      some (settling reply (fun _ => .agreed)) := fun reply => step_starting rfl rfl rfl rfl (taking_pos rfl _)
  have moves : ∀ reply, stageStep host packages rounds context .agreed
      ⟨.rename context.liskCoreV3DataPath (liskV3BackupDataDir host.homedir),reply⟩ = some (settling reply (fun _ => .backedUp)) :=
    fun reply => step_starting rfl rfl rfl rfl (taking_pos ⟨rfl,rfl⟩ _)
  apply guides_handle (Halted context)
  · apply guides_ite
    · intro _
      apply guides_bind (settled_in (asked_in makes))
      exact fun _ => settled_in (asked_in moves)
    · exact fun _ => settled_in (asked_in moves)
  · exact fun _ => guides_throw (fun _ _ halted => halted)

theorem copyLegacyDB_in : Guided host packages rounds world flags (Standing context .backedUp Anyway) (copyLegacyDB host world)
    (fun _ => Standing context .copied Anyway) (Halted context) := by
  have copies : ∀ reply, stageStep host packages rounds context .backedUp
      ⟨.copyDir (Path.resolve host.cwd [liskV3BackupDataDir host.homedir,snapshotDir]) (resolveAbsolutePath host legacyDbPath),reply⟩ =
      some (settling reply (fun _ => .copied)) := fun reply => step_starting rfl rfl rfl rfl (taking_pos ⟨rfl,rfl⟩ _)
  exact guides_handle (Halted context) (settled_in (asked_in copies)) (fun _ => guides_throw (fun _ _ halted => halted))

theorem customize_in {network : String} {allowedFlags : List String} (tries : Nat) (userInput : String) :
    Guided host packages rounds world flags (Standing context .copied Anyway) (customizeStartCommand world network allowedFlags tries userInput)
      (fun _ => Standing context .copied Anyway) (Halted context) := by
  have prompts : ∀ reply, stageStep host packages rounds context .copied ⟨.prompt,reply⟩ = some (settling reply (fun _ => .copied)) :=
    fun reply => step_starting rfl rfl rfl rfl rfl
  induction tries generalizing userInput with
  | zero => exact guides_pure (fun _ _ standing => standing)
  | succ numTriesLeft ih =>
    apply guides_ite
    · exact fun _ => guides_pure (fun _ _ standing => standing)
    · intro _
      apply guides_ite
      · exact fun _ => guides_bind (settled_in (asked_in prompts)) (fun _ => ih _)
      · exact fun _ => guides_throw (fun _ _ => standing_halted)

theorem resolveStartCommand_in {network configPath : String} :
    Guided host packages rounds world flags (Standing context .copied Anyway) (resolveLiskCoreStartCommand world network configPath)
      (fun _ => Standing context .copied Anyway) (Halted context) := by
  have asks (command : String) : ∀ reply, stageStep host packages rounds context .copied ⟨.confirm (.customizeStartCommand command),reply⟩ =
      some (settling reply (fun _ => .copied)) := fun reply => step_starting rfl rfl rfl rfl rfl
  have prompts : ∀ reply, stageStep host packages rounds context .copied ⟨.prompt,reply⟩ = some (settling reply (fun _ => .copied)) :=
    fun reply => step_starting rfl rfl rfl rfl rfl
  have helps : ∀ reply, stageStep host packages rounds context .copied ⟨.exec .liskCoreStartHelp,reply⟩ =
      some (settling reply (fun _ => .copied)) := fun reply => step_starting rfl rfl rfl rfl rfl
  have recorded (command : String) : Guided host packages rounds world flags (Standing context .copied Anyway) (recordStartCommand command)
      (fun _ => Standing context .copied Anyway) (Halted context) := guides_update _ (fun _ _ standing => standing)
  apply guides_bind (settled_in (asked_in (asks _)))
  intro isUserConfirmed
  apply guides_ite
  · exact fun _ => guides_bind (recorded _) (fun _ => guides_pure (fun _ _ standing => standing))
  · intro _
    apply guides_bind (settled_in (asked_in prompts))
    intro userInput
    apply guides_bind (executed_in (asked_in helps))
    intro allowedFlags
    apply guides_bind (customize_in 3 userInput)
    intro customStartCommand
    exact guides_bind (recorded _) (fun _ => guides_pure (fun _ _ standing => standing))

-- The file that the start looks for is not the one that the commands are made of.
theorem configPath_apart : context.outputDir ++ "/config.json" ≠ context.forgingStatusPath host := by
  intro same
  have config : Path.walk true (context.outputDir ++ ("/" ++ "config.json")) = Path.walk true context.outputDir ++ ["config.json"] := by
    rw [← String.append_assoc]
    exact Path.walk_below (by decide +kernel) (by decide +kernel) true context.outputDir
  have forging (path : String) : Path.walk true (path ++ "/" ++ fileNameForgingStatus) = Path.walk true path ++ [fileNameForgingStatus] :=
    Path.walk_below (by decide +kernel) (by decide +kernel) true path
  have relative : Path.isAbsolute fileNameForgingStatus = false := by decide +kernel
  have walked := congrArg (Path.walk true) same
  unfold Context.forgingStatusPath at walked
  rw [Path.walk_resolve,List.foldl_cons,List.foldl_cons,List.foldl_nil,relative,if_neg Bool.false_ne_true,forging] at walked
  have names := (List.append_inj' (config.symm.trans walked) rfl).2
  exact absurd names (by decide +kernel)

theorem getFinalConfigPath_in {network : String} : Guided host packages rounds world flags (Standing context .copied Anyway)
    (getFinalConfigPath host world context.outputDir network) (fun _ => Standing context .copied Anyway) (Halted context) := by
  have looks : ∀ reply : Bool, stageStep host packages rounds context .copied ⟨.access (context.outputDir ++ "/config.json"),reply⟩ =
      some .copied := fun reply => step_starting (if_neg configPath_apart) rfl rfl rfl (taking_pos rfl _)
  apply guides_bind (asked_in looks)
  intro found
  exact guides_ite (fun _ => guides_pure (fun _ _ standing => standing)) (fun _ => guides_pure (fun _ _ standing => standing))

theorem launchLiskCore_in {network : String} : Guided host packages rounds world flags (Standing context .copied Anyway)
    (launchLiskCore host world network context.outputDir) (fun _ => Standing context .started Anyway) (Halted context) := by
  apply guides_bind getFinalConfigPath_in
  intro configPath
  apply guides_bind resolveStartCommand_in
  intro script
  have asks : ∀ reply, stageStep host packages rounds context .copied ⟨.confirm (.pm2Configuration script),reply⟩ =
      some (agreeing reply .launching) := fun reply => step_starting rfl rfl rfl rfl rfl
  apply guides_bind (confirmed_in asks)
  intro isUserConfirmed
  cases isUserConfirmed with
  | false =>
    apply guides_bind (guides_cliErrorIf (fun _ _ => standing_halted))
    intro _
    apply guides_given
    exact fun never => absurd Bool.false_ne_true never
  | true =>
    rw [if_pos rfl]
    apply guides_bind cliErrorIf_in
    intro _
    have installs : ∀ reply, stageStep host packages rounds context .launching ⟨.exec .installPM2,reply⟩ =
        some (settling reply (fun _ => .launching)) := fun reply => step_starting rfl rfl rfl rfl rfl
    have writes (config : Json) : ∀ reply, stageStep host packages rounds context .launching
        ⟨.writeJSON (Path.resolve host.cwd [context.outputDir,pm2FileName]) config,reply⟩ = some (settling reply (fun _ => .launching)) :=
      fun reply => step_starting rfl rfl rfl rfl (taking_pos rfl _)
    have starts : ∀ reply, stageStep host packages rounds context .launching
        ⟨.exec (.startPM2 (Path.resolve host.cwd [context.outputDir,pm2FileName])),reply⟩ = some (settling reply (fun _ => .started)) :=
      fun reply => step_starting rfl rfl rfl rfl (taking_pos rfl _)
    have installed : Guided host packages rounds world flags (Standing context .launching Anyway) (installPM2 world)
        (fun _ => Standing context .launching Anyway) (Halted context) :=
      guides_bind (executed_in (asked_in installs)) (fun _ => guides_pure (fun _ _ standing => standing))
    apply guides_bind installed
    intro _
    apply guides_bind (settled_in (asked_in (writes _)))
    intro _
    apply guides_bind (executed_in (asked_in starts))
    exact fun _ => guides_pure (fun _ _ standing => standing)

theorem startLiskCore_in {config : Option Json} {network : String} : Guided host packages rounds world flags (Standing context .agreed Anyway)
    (startLiskCore host world context.liskCoreV3DataPath config network context.outputDir) (fun _ => Standing context .started Anyway)
    (Halted context) := by
  apply guides_handle (Halted context)
  · apply guides_bind (guides_bind requirePort_in (fun _ => requirePort_in))
    intro _
    apply guides_bind backupLegacyDataDir_in
    intro _
    apply guides_bind copyLegacyDB_in
    exact fun _ => launchLiskCore_in
  · exact fun _ => guides_throw (fun _ _ halted => halted)

-- What is left to do when the try block has run through: nothing, or what the user
-- has not agreed to.
def Stage.Finished (stage : Stage) : Prop := (∃ hash, stage = .publishing [] hash) ∨ stage = .declined ∨ stage = .started

def Finishing (context : Context) (q : Progress) (_ : Store) : Prop := ∃ stage, q = .running context stage ∧ stage.Finished

theorem confirmAndStart_in {networkName : String} : Guided host packages rounds world flags (Standing context .stopping Anyway)
    (confirmAndStart host world context networkName) (fun _ => Finishing context) (Halted context) := by
  have read : Guided host packages rounds world flags (Standing context .stopping Anyway) readStore (fun _ => Standing context .stopping Anyway)
      (Halted context) := guides_readStore (fun _ _ held => held)
  apply guides_bind read
  intro store
  have asks : ∀ reply, stageStep host packages rounds context .stopping ⟨.confirm (.configuration store.configCoreV4),reply⟩ =
      some (settling reply (fun agreed => if agreed then .agreed else .declined)) := fun reply => step_starting rfl rfl rfl rfl rfl
  apply guides_bind (settled_in (asked_in asks))
  intro isUserConfirmed
  cases isUserConfirmed with
  | false => exact guides_pure (fun _ _ standing => ⟨.declined,standing.1,.inr (.inl rfl)⟩)
  | true =>
    rw [if_pos rfl]
    apply guides_imp startLiskCore_in (fun _ _ held => held)
    · exact fun _ _ _ standing => ⟨.started,standing.1,.inr (.inr rfl)⟩
    · exact fun _ _ _ halted => halted

theorem autoStartLiskCore_in {networkName snapshotDirPath hash : String} (starts : context.startsCore = true) :
    Guided host packages rounds world flags (Standing context (.publishing [] hash) Anyway)
      (autoStartLiskCore host world context networkName snapshotDirPath) (fun _ => Finishing context) (Halted context) := by
  have finds : ∀ reply, stageStep host packages rounds context (.publishing [] hash) ⟨.exec .whichLiskCore,reply⟩ =
      some (settling reply (fun _ => .publishing [] hash)) := fun reply => step_publishing rfl rfl rfl (taking_pos starts _)
  have copies (dest : String) : ∀ reply, stageStep host packages rounds context (.publishing [] hash)
      ⟨.copyFile (context.outputDir ++ "/genesis_block.blob") dest,reply⟩ = some (settling reply (fun _ => .placed)) :=
    fun reply => step_publishing rfl rfl rfl (taking_pos ⟨starts,rfl⟩ _)
  have asks : ∀ reply, stageStep host packages rounds context .placed ⟨.confirm .stopLiskCoreV3,reply⟩ =
      some (agreeing reply .stopping) := fun reply => step_starting rfl rfl rfl rfl rfl
  apply guides_bind (executed_in (asked_in finds))
  intro liskCoreExecPath
  apply guides_bind (settled_in (asked_in (copies _)))
  intro _
  apply guides_bind (confirmed_in asks)
  intro isLiskCoreV3Stopped
  cases isLiskCoreV3Stopped with
  | false => exact guides_throw (fun _ _ => standing_halted)
  | true =>
    rw [if_pos rfl]
    apply guides_bind (awaitStopped_in 3)
    exact fun _ => confirmAndStart_in

theorem autoStart_in {defaultConfigV4 : ApplicationConfig} {snapshotDirPath hash : String} :
    Guided host packages rounds world flags (Standing context (.publishing [] hash) Anyway)
      (autoStart host world context defaultConfigV4 snapshotDirPath) (fun _ => Finishing context) (Halted context) := by
  apply guides_ite
  · exact fun _ => guides_pure (fun _ _ standing => ⟨_,standing.1,.inl ⟨hash,rfl⟩⟩)
  · intro wanted
    have starts : context.startsCore = true := by
      simp only [not_or,not_not] at wanted
      simp [Context.startsCore,wanted.1,wanted.2]
    have named : Guided host packages rounds world flags (Standing context (.publishing [] hash) Anyway)
        (do
          let network ← defined context.networkConstant "name"
          autoStartLiskCore host world context network.name snapshotDirPath) (fun _ => Finishing context) (Halted context) := by
      apply guides_bind (guides_defined (fun _ _ => standing_halted))
      intro network
      apply guides_given
      exact fun _ => autoStartLiskCore_in starts
    apply guides_handle (Halted context)
    · apply guides_ite
      · intro _
        have based : Guided host packages rounds world flags (Standing context (.publishing [] hash) Anyway)
            (update (fun store : Store => { store with configCoreV4 := some defaultConfigV4.value }))
            (fun _ => Standing context (.publishing [] hash) Anyway) (Halted context) := guides_update _ (fun _ _ standing => standing)
        exact guides_bind based (fun _ => named)
      · exact fun _ => named
    · exact fun _ => guides_throw (fun _ _ halted => halted)

end Start

section Whole
variable {host : Host} {packages : Packages} {rounds : Nat} {flags : Flags} {world : World migrator} {context : Context}

theorem tryBlock_in : Guided host packages rounds world flags (Standing context (firstStage context) Unused)
    (tryBlock host packages rounds world context) (fun _ => Finishing context) (Halted context) := by
  apply guides_bind prepareSnapshot_in
  intro _
  apply guides_bind createAssets_in
  intro made
  obtain ⟨snapshotDirPath,db,genesisAssets⟩ := made
  apply guides_given
  intro assets
  apply guides_bind resolveConfigPath_in
  intro defaultConfigFilePath
  apply guides_given
  intro located
  have reads : ∀ reply, stageStep host packages rounds context (.opened db) ⟨.readDefaultConfig defaultConfigFilePath,reply⟩ =
      some (settling reply (fun _ => .opened db)) := fun reply => step_making rfl rfl (taking_pos located _)
  apply guides_bind (settled_in (asked_in reads))
  intro defaultConfigV4
  have exports : ∀ reply, stageStep host packages rounds context (.opened db)
      ⟨.writeGenesisAssets (Path.resolve host.cwd [context.outputDir,fileNameGenesisAssets]) genesisAssets,reply⟩ =
      some (settling reply (fun _ => .exported db)) := fun reply => step_making rfl rfl (taking_pos ⟨rfl,assets⟩ _)
  apply guides_bind (settled_in (asked_in exports))
  intro _
  apply guides_bind migrateConfig_in
  intro _
  apply guides_bind (makeGenesisBlock_in located)
  intro _
  apply guides_bind writeGenesisBlock_in
  intro _
  apply guides_some
  exact fun hash => autoStart_in

-- The commands are written from whatever stage the run is in.
theorem writeCommandsToExec_in {network : Option NetworkConfigLocal} {snapshotHeight : Int} {commands : List (Option String)} {stage : Stage} :
    Guided host packages rounds world flags (Standing context stage Anyway)
      (writeCommandsToExec host world network snapshotHeight context.outputDir commands) (fun _ => Standing context .closing Anyway)
      (Halted context) := by
  have reads : ∀ reply, stageStep host packages rounds context .closing ⟨.readJSON (context.forgingStatusPath host),reply⟩ =
      some (settling reply (fun _ => .closing)) := by
    intro reply
    cases reply with
    | ok _ => exact step_closing (taking_pos rfl _)
    | error _ => exact step_closing (taking_pos rfl _)
  have writes (content : String) : ∀ reply, stageStep host packages rounds context .closing ⟨.write (context.commandsPath host) content,reply⟩ =
      some (settling reply (fun _ => .closing)) := by
    intro reply
    cases reply with
    | ok _ => exact step_closing (taking_pos rfl _)
    | error _ => exact step_closing (taking_pos rfl _)
  have listed (chainID : Nat) (statuses : List Json) : Guided host packages rounds world flags (Standing context .closing Anyway)
      (validatorSections host chainID snapshotHeight context.outputDir statuses) (fun _ => Standing context .closing Anyway)
      (Halted context) := by
    induction statuses with
    | nil => exact guides_pure (fun _ _ standing => standing)
    | cons status rest ih =>
      have section_in : Guided host packages rounds world flags (Standing context .closing Anyway)
          (validatorSection host chainID snapshotHeight context.outputDir status) (fun _ => Standing context .closing Anyway)
          (Halted context) := by
        unfold validatorSection
        split
        · exact guides_throw (fun _ _ => standing_halted)
        · exact guides_pure (fun _ _ standing => standing)
      apply guides_bind section_in
      exact fun _ => guides_bind ih (fun _ => guides_pure (fun _ _ standing => standing))
  have collected : Guided host packages rounds world flags (Standing context stage Anyway)
      (getCommandsToExecPostMigration host world network snapshotHeight context.outputDir) (fun _ => Standing context .closing Anyway)
      (Halted context) := by
    apply guides_bind (asked_in closing_access)
    intro found
    apply guides_ite
    · intro _
      apply guides_bind (settled_in (asked_in reads))
      intro forgingStatusJson
      apply guides_bind (guides_defined (fun _ _ => standing_halted))
      intro network
      apply guides_given
      intro _
      split
      · exact guides_throw (fun _ _ => standing_halted)
      · exact listed _ _
    · exact fun _ => guides_pure (fun _ _ standing => standing)
  apply guides_bind collected
  intro postMigration
  exact guides_ite (fun _ => settled_in (asked_in (writes _))) (fun _ => guides_pure (fun _ _ standing => standing))

theorem catchBlock_in {e : Thrown} {stage : Stage} : Guided host packages rounds world flags (Standing context stage Anyway)
    (catchBlock host world context e) (fun _ _ _ => False) (Halted context) := by
  apply guides_bind (guides_defined (fun _ _ => standing_halted))
  intro network
  apply guides_given
  intro _
  have read : Guided host packages rounds world flags (Standing context stage Anyway) readStore (fun _ => Standing context stage Anyway)
      (Halted context) := guides_readStore (fun _ _ held => held)
  apply guides_bind read
  intro store
  apply guides_bind writeCommandsToExec_in
  exact fun _ => guides_throw (fun _ _ => standing_halted)

theorem onFailure_in {e : Thrown} {stage : Stage} : Guided host packages rounds world flags (Standing context stage Anyway)
    (onFailure host world context e) (fun _ _ _ => False) (Halted context) :=
  guides_ite (fun _ => catchBlock_in) (fun _ => guides_throw (fun _ _ => standing_halted))

theorem running_in : Guided host packages rounds world flags (Standing context (firstStage context) Unused)
    (do
      handle (tryBlock host packages rounds world context) (onFailure host world context)
      writeCommandsToExec host world context.networkConstant context.flags.snapshotHeight context.outputDir [])
    (fun _ => Standing context .closing Anyway) (Halted context) := by
  have caught (e : Thrown) : Guided host packages rounds world flags (Halted context e) (onFailure host world context e) (fun _ => Finishing context)
      (Halted context) := by
    intro q s tracks halted
    obtain ⟨stage,stands⟩ := halted
    apply ends_imp (onFailure_in q s tracks ⟨stands,trivial⟩)
    · intro _ t ended
      obtain ⟨_,_,never⟩ := ended
      exact never.elim
    · exact fun _ _ halted => halted
  apply guides_bind (guides_handle (Halted context) tryBlock_in caught)
  intro _ q s tracks finishing
  obtain ⟨stage,stands,_⟩ := finishing
  exact writeCommandsToExec_in q s tracks ⟨stands,trivial⟩

-- How the protocol starts, and what the program knows of the flags by then.
def Starting (host : Host) (flags : Flags) (q : Progress) (store : Store) : Prop :=
  q = protocolStart host flags ∧ Unused store

theorem checkFlags_in : Guided host packages rounds world flags (Starting host flags)
    (checkFlags host flags (useSnapshotOf host flags) (outputPathOf host flags))
    (fun _ q store => Accepted host flags ∧ Starting host flags q store) (fun _ _ _ => True) := by
  apply guides_bind (guides_cliErrorIf (fun _ _ _ => trivial))
  intro _
  apply guides_given
  intro network
  apply guides_bind (guides_cliErrorIf (fun _ _ _ => trivial))
  intro _
  apply guides_given
  intro remote
  cases verified : verifyOutputPath host (outputPathOf host flags) with
  | some refused => exact guides_throw (fun _ _ _ => trivial)
  | none =>
    have accepted : Accepted host flags := by
      refine ⟨fun set => ?_,fun set => ?_,verified⟩
      · by_contra missing
        exact network ⟨set,missing⟩
      · by_contra other
        exact remote ⟨set,not_and_or.mp other⟩
    exact guides_pure (fun _ _ starting => ⟨accepted,starting⟩)

def Identified (networkIdentifier : String) (q : Progress) (store : Store) : Prop :=
  q = .identified networkIdentifier ∧ Unused store

def Asking (q : Progress) (store : Store) : Prop := q = .entering ∧ Unused store

theorem identify_in : Guided host packages rounds world flags Asking
    (do
      let nodeInfo ← getNodeInfo world (resolveAbsolutePath host (flags.liskCoreV3DataPath.getD defaultLiskCorePath))
      return nodeInfo.networkIdentifier) Identified (fun _ _ _ => True) := by
  have connects : Guided host packages rounds world flags Asking
      (ask world (.createIPCClient (resolveAbsolutePath host (flags.liskCoreV3DataPath.getD defaultLiskCorePath))))
      (fun reply q store => reply.isOk = true → Asking q store) (fun _ _ _ => True) := by
    apply guides_ask
    intro q store reply asking
    obtain ⟨rfl,unused⟩ := asking
    cases reply with
    | ok _ => exact ⟨.entering,taking_pos rfl _,fun _ => ⟨rfl,unused⟩⟩
    | error fault => exact ⟨.refused,taking_pos rfl _,fun never => Bool.noConfusion never⟩
  have informs : Guided host packages rounds world flags Asking
      (ask world (.getNodeInfo (resolveAbsolutePath host (flags.liskCoreV3DataPath.getD defaultLiskCorePath))))
      (fun reply q store => ∀ nodeInfo, reply = .ok nodeInfo → Identified nodeInfo.networkIdentifier q store) (fun _ _ _ => True) := by
    apply guides_ask
    intro q store reply asking
    obtain ⟨rfl,unused⟩ := asking
    cases reply with
    | ok info =>
      refine ⟨.identified info.networkIdentifier,taking_pos rfl _,?_⟩
      intro nodeInfo same
      cases same
      exact ⟨rfl,unused⟩
    | error fault => exact ⟨.refused,taking_pos rfl _,fun nodeInfo never => nomatch never⟩
  have connected : Guided host packages rounds world flags Asking
      (getAPIClient world (resolveAbsolutePath host (flags.liskCoreV3DataPath.getD defaultLiskCorePath)) false) (fun _ => Asking)
      (fun _ _ _ => True) := by
    apply guides_bind (guides_readStore (fun _ _ held => held) : Guided host packages rounds world flags Asking readStore (fun _ => Asking) _)
    intro store
    apply guides_ite
    · intro _
      have created : Guided host packages rounds world flags Asking
          (settled (ask world (.createIPCClient (resolveAbsolutePath host (flags.liskCoreV3DataPath.getD defaultLiskCorePath)))))
          (fun _ => Asking) (fun _ _ _ => True) := by
        apply guides_settled
        apply guides_imp connects (fun _ _ held => held)
        · intro reply q store held
          cases reply with
          | ok _ => exact held rfl
          | error _ => trivial
        · exact fun _ _ _ _ => trivial
      apply guides_bind created
      exact fun _ => guides_update _ (fun _ _ asking => asking)
    · exact fun _ => guides_pure (fun _ _ asking => asking)
  have asked : Guided host packages rounds world flags Asking
      (getNodeInfo world (resolveAbsolutePath host (flags.liskCoreV3DataPath.getD defaultLiskCorePath)))
      (fun nodeInfo => Identified nodeInfo.networkIdentifier) (fun _ _ _ => True) := by
    apply guides_bind connected
    intro _
    apply guides_settled
    apply guides_imp informs (fun _ _ held => held)
    · intro reply q store held
      cases reply with
      | ok nodeInfo => exact held nodeInfo rfl
      | error _ => trivial
    · exact fun _ _ _ _ => trivial
  exact guides_bind asked (fun nodeInfo => guides_pure (fun _ _ identified => identified))

theorem getNetworkIdentifier_in (accepted : Accepted host flags) : Guided host packages rounds world flags (Starting host flags)
    (getNetworkIdentifier world flags.network (resolveAbsolutePath host (flags.liskCoreV3DataPath.getD defaultLiskCorePath)))
    Identified (fun _ _ _ => True) := by
  have unnamed (bare : given flags.network = false) : protocolStart host flags = .entering := by
    simp [protocolStart,accepted,bare]
  have asks (bare : given flags.network = false) : ∀ q store, Starting host flags q store → Asking q store :=
    fun _ _ starting => ⟨starting.1.trans (unnamed bare),starting.2⟩
  unfold getNetworkIdentifier
  split
  · rename_i network named
    apply guides_ite
    · intro empty
      have bare : given flags.network = false := by simp [given,named,empty]
      exact guides_imp identify_in (asks bare) (fun _ _ _ held => held) (fun _ _ _ held => held)
    · intro filled
      have set : given flags.network = true := by simp [given,named,filled]
      split
      · rename_i networkIdentifier constant found
        have start : protocolStart host flags = .identified networkIdentifier := by
          unfold protocolStart
          rw [if_pos accepted,if_pos set,named,Option.getD_some,found]
        exact guides_pure (fun _ _ starting => ⟨starting.1.trans start,starting.2⟩)
      · exact guides_throw (fun _ _ _ => trivial)
  · rename_i named
    have bare : given flags.network = false := by simp [given,named]
    exact guides_imp identify_in (asks bare) (fun _ _ _ held => held) (fun _ _ _ held => held)

theorem enterRun_in : Guided host packages rounds world flags (Starting host flags) (enterRun host world flags)
    (fun context => Standing context (firstStage context) Unused) (fun _ _ _ => True) := by
  apply guides_bind checkFlags_in
  intro _
  apply guides_given
  intro accepted
  apply guides_bind (getNetworkIdentifier_in accepted)
  intro networkIdentifier
  have ensures : Guided host packages rounds world flags (Identified networkIdentifier)
      (ask world (.ensureDir (outputDirOf host flags networkIdentifier)))
      (fun reply q store => q = entered host flags networkIdentifier reply ∧ Unused store) (fun _ _ _ => True) := by
    apply guides_ask
    intro q store reply identified
    obtain ⟨rfl,unused⟩ := identified
    exact ⟨_,taking_pos rfl _,rfl,unused⟩
  have ensured : Guided host packages rounds world flags (Identified networkIdentifier)
      (settled (ask world (.ensureDir (outputDirOf host flags networkIdentifier))))
      (fun _ => Standing (contextOf host flags networkIdentifier) (firstStage (contextOf host flags networkIdentifier)) Unused)
      (fun _ _ _ => True) := by
    apply guides_settled
    apply guides_imp ensures (fun _ _ held => held)
    · intro reply q store held
      cases reply with
      | ok _ => exact held
      | error _ => trivial
    · exact fun _ _ _ _ => trivial
  apply guides_bind ensured
  exact fun _ => guides_pure (fun _ _ standing => standing)

theorem run_in : Guided host packages rounds world flags (Starting host flags) (LiskMigrator.run host packages rounds world flags)
    (fun _ q _ => ∃ context, q = .running context .closing) (fun _ _ _ => True) := by
  apply guides_bind enterRun_in
  intro context
  apply guides_imp running_in (fun _ _ held => held)
  · exact fun _ _ _ standing => ⟨context,standing.1⟩
  · exact fun _ _ _ _ => trivial

end Whole
end LiskMigrator
