import LiskMigrator.Provenance

namespace LiskMigrator
open Interaction Outcome Text

-- The requests that go to a node, by a client for the path.
inductive Uses (path : String) : Request → Prop where
  | getNodeInfo : Uses path (.getNodeInfo path)
  | subscribeNewBlock (snapshotHeight : Int) (outputDir : String) : Uses path (.subscribeNewBlock path snapshotHeight outputDir)
  | observeChainHeight (height : Int) : Uses path (.observeChainHeight path height)

def created : Event migrator → Option String
  | ⟨.createIPCClient path,.ok _⟩ => some path
  | _ => none

-- The paths that a client has been created for, the last one first.
def connected (events : List (Event migrator)) : List String := events.filterMap created

-- The user says that v3 has been stopped.
def StopConfirmed (events : List (Event migrator)) : Prop := ⟨.confirm .stopLiskCoreV3,.ok true⟩ ∈ events

-- What may be asked behind the earlier events, the newest of them first. A node
-- is asked by a client for its path. The client is created once, until the user
-- says that v3 has been stopped; from then on a new one is created for every look.
structure Proper (earlier : List (Event migrator)) (request : Request) : Prop where
  served : ∀ path, Uses path request → path ∈ connected earlier
  single : ∀ path, request = .createIPCClient path → path ∈ connected earlier → StopConfirmed earlier
  fresh : ∀ path, Uses path request → StopConfirmed earlier → earlier.head? = some ⟨.createIPCClient path,.ok ()⟩

def Disciplined : List (Event migrator) → Prop
  | [] => True
  | event :: earlier => Proper earlier event.call ∧ Disciplined earlier

theorem disciplined_part (later : List (Event migrator)) (disciplined : Disciplined (later ++ event :: earlier)) :
    Proper earlier event.call := by
  induction later with
  | nil => exact disciplined.1
  | cons _ later ih => exact ih disciplined.2

-- How the clients stand between two parts of run. The cache has the paths of all
-- clients that have been created.
structure Clients (stopped : Bool) (s : Session migrator Store) : Prop where
  disciplined : Disciplined s.events
  cached : s.store.clientCache = connected s.events
  confirmed : StopConfirmed s.events ↔ stopped = true

-- The requests that bear on the clients.
def Request.concernsClients : Request → Bool
  | .createIPCClient _ => true
  | .getNodeInfo _ => true
  | .subscribeNewBlock _ _ _ => true
  | .observeChainHeight _ _ => true
  | .confirm .stopLiskCoreV3 => true
  | _ => false

section Steps
variable {stopped : Bool} {s : Session migrator Store} {request : Request} {path : String}

theorem uses_concerns (uses : Uses path request) : request.concernsClients = true := by
  cases uses <;> rfl

theorem apart_proper (apart : request.concernsClients = false) (earlier : List (Event migrator)) : Proper earlier request := by
  have unused (path : String) : ¬ Uses path request := fun uses => Bool.false_ne_true (apart.symm.trans (uses_concerns uses))
  refine ⟨fun path uses => absurd uses (unused path),?_,fun path uses => absurd uses (unused path)⟩
  rintro path rfl
  cases apart

theorem apart_created (apart : request.concernsClients = false) (reply : request.Reply) : created ⟨request,reply⟩ = none := by
  unfold created
  split
  · rename_i same
    cases same
    cases apart
  · rfl

theorem apart_confirmed (apart : request.concernsClients = false) (reply : request.Reply) (earlier : List (Event migrator)) :
    StopConfirmed (⟨request,reply⟩ :: earlier) ↔ StopConfirmed earlier := by
  constructor
  · intro confirmed
    rcases List.mem_cons.mp confirmed with same | before
    · cases same
      cases apart
    · exact before
  · exact List.mem_cons_of_mem _

theorem connected_apart (apart : request.concernsClients = false) (reply : request.Reply) (earlier : List (Event migrator)) :
    connected (⟨request,reply⟩ :: earlier) = connected earlier := List.filterMap_cons_none (apart_created apart reply)

theorem Clients.apart (clients : Clients stopped s) (apart : request.concernsClients = false) (reply : request.Reply) :
    Clients stopped ⟨⟨request,reply⟩ :: s.events,s.store⟩ where
  disciplined := ⟨apart_proper apart s.events,clients.disciplined⟩
  cached := clients.cached.trans (connected_apart apart reply s.events).symm
  confirmed := (apart_confirmed apart reply s.events).trans clients.confirmed

theorem Clients.store (clients : Clients stopped s) {store : Store} (same : store.clientCache = s.store.clientCache) :
    Clients stopped ⟨s.events,store⟩ := ⟨clients.disciplined,same.trans clients.cached,clients.confirmed⟩

-- A client is used that has been created, and just now if v3 has been stopped.
theorem Clients.used (clients : Clients stopped s) (uses : Uses path request) (present : path ∈ s.store.clientCache)
    (fresh : stopped = true → s.events.head? = some ⟨.createIPCClient path,.ok ()⟩) (reply : request.Reply) :
    Clients stopped ⟨⟨request,reply⟩ :: s.events,s.store⟩ := by
  have onlyPath {other : String} (others : Uses other request) : other = path := by
    cases uses <;> cases others <;> rfl
  have proper : Proper s.events request := by
    refine ⟨?_,?_,?_⟩
    · intro other others
      exact onlyPath others ▸ clients.cached ▸ present
    · rintro other rfl
      cases uses
    · intro other others confirmed
      exact onlyPath others ▸ fresh (clients.confirmed.mp confirmed)
  have other : created ⟨request,reply⟩ = none := by
    cases uses <;> rfl
  have unconfirmed : StopConfirmed (⟨request,reply⟩ :: s.events) ↔ StopConfirmed s.events := by
    refine ⟨fun confirmed => ?_,List.mem_cons_of_mem _⟩
    rcases List.mem_cons.mp confirmed with same | before
    · cases same
      cases uses
    · exact before
  exact ⟨⟨proper,clients.disciplined⟩,clients.cached.trans (List.filterMap_cons_none other).symm,unconfirmed.trans clients.confirmed⟩

end Steps

section Offhand
variable {host : Host} {packages : Packages} {rounds : Nat} {world : World migrator} {context : Context} {stopped : Bool}

-- The parts of run that leave the clients alone.
abbrev Offhand (stopped : Bool) (x : Migration α) : Prop := Sustains (Clients stopped) x

theorem offhand_ask {request : Request} (apart : request.concernsClients = false) : Offhand stopped (ask world request) :=
  sustains_ask world request (fun _ reply clients => clients.apart apart reply)

theorem offhand_getConfig : Offhand stopped (getConfig host world corePath networkIdentifier customConfigPath) := by
  unfold getConfig
  split
  · exact sustains_throw _
  · apply sustains_bind (sustains_settled (offhand_ask rfl))
    intro dataDirConfig
    split
    · exact sustains_pure _
    · exact sustains_bind (sustains_settled (offhand_ask rfl)) (fun _ => sustains_pure _)

theorem offhand_validatorSections (statuses : List Json) :
    Offhand stopped (validatorSections host chainID snapshotHeight outputDir statuses) := by
  induction statuses with
  | nil => exact sustains_pure []
  | cons status rest ih =>
    apply sustains_bind
    · unfold validatorSection
      split
      · exact sustains_throw _
      · exact sustains_pure _
    · exact fun _ => sustains_bind ih (fun _ => sustains_pure _)

theorem offhand_writeCommands : Offhand stopped (writeCommandsToExec host world network snapshotHeight outputDir commands) := by
  apply sustains_bind
  · apply sustains_bind (offhand_ask rfl)
    intro found
    apply sustains_ite
    · apply sustains_bind (sustains_settled (offhand_ask rfl))
      intro forgingStatusJson
      apply sustains_bind (sustains_defined _ _)
      intro network
      split
      · exact sustains_throw _
      · exact offhand_validatorSections _
    · exact sustains_pure []
  · intro postMigration
    exact sustains_ite (sustains_settled (offhand_ask rfl)) (sustains_pure ())

theorem offhand_catchBlock : Offhand stopped (catchBlock host world context e) := by
  apply sustains_bind (sustains_defined _ _)
  intro network
  apply sustains_bind sustains_readStore
  intro store
  exact sustains_bind offhand_writeCommands (fun _ => sustains_throw _)

theorem offhand_onFailure : Offhand stopped (onFailure host world context e) :=
  sustains_ite offhand_catchBlock (sustains_throw e)

theorem offhand_checkFlags : Offhand stopped (checkFlags host flags useSnapshot outputPath) := by
  apply sustains_bind (sustains_cliErrorIf _ _)
  intro _
  apply sustains_bind (sustains_cliErrorIf _ _)
  intro _
  split
  · exact sustains_throw _
  · exact sustains_pure ()

theorem offhand_downloadAndExtract : Offhand stopped (downloadAndExtract world url downloadPath extractionPath) := by
  apply sustains_bind (sustains_settled (offhand_ask rfl))
  intro _
  apply sustains_bind (sustains_settled (offhand_ask rfl))
  intro _
  apply sustains_bind
  · apply sustains_bind (sustains_settled (offhand_ask rfl))
    intro content
    exact sustains_bind (sustains_raiseIf _ _) (fun _ => sustains_pure _)
  intro checksum
  apply sustains_bind
  · exact sustains_bind (sustains_settled (offhand_ask rfl)) (fun _ => sustains_raiseIf _ _)
  exact fun _ => sustains_settled (offhand_ask rfl)

theorem offhand_update (g : Store → Store) (same : ∀ store, (g store).clientCache = store.clientCache) : Offhand stopped (update g) :=
  sustains_update g (fun s clients => clients.store (same s.store))

theorem offhand_ofProcess (step : Step Failure Process α) : Offhand stopped (ofProcess step) := by
  intro s clients
  unfold Ends ofProcess
  cases step s.store.process with
  | ok a process => exact clients.store rfl
  | error failure process => exact clients.store rfl

theorem offhand_resolveSnapshotPath : Offhand stopped (resolveSnapshotPath world useSnapshot snapshotPath dataDir liskCorePath) := by
  apply sustains_ite
  · exact sustains_pure _
  · split
    · exact sustains_pure _
    · apply sustains_bind (sustains_settled (offhand_ask rfl))
      intro files
      cases files with
      | nil => exact sustains_throw _
      | cons name rest => exact sustains_pure _

theorem offhand_setTokenID : Offhand stopped (setTokenIDLskByNetID networkIdentifier) :=
  sustains_bind (sustains_defined _ _) (fun _ => offhand_update _ (fun _ => rfl))

theorem offhand_setPrevSnapshotBlockHeight : Offhand stopped (setPrevSnapshotBlockHeightByNetID networkIdentifier) :=
  sustains_bind (sustains_defined _ _) (fun _ => offhand_update _ (fun _ => rfl))

theorem offhand_createAssets : Offhand stopped (createAssets packages rounds world context) := by
  apply sustains_bind offhand_setTokenID
  intro _
  apply sustains_bind offhand_setPrevSnapshotBlockHeight
  intro _
  apply sustains_bind offhand_resolveSnapshotPath
  intro snapshotDirPath
  apply sustains_bind (sustains_settled (offhand_ask rfl))
  intro db
  apply sustains_bind sustains_readStore
  intro store
  exact sustains_bind (offhand_ofProcess _) (fun _ => sustains_pure _)

theorem offhand_migrateConfig : Offhand stopped (migrateConfig host world context defaultConfigV4) := by
  apply sustains_ite
  · apply sustains_bind offhand_getConfig
    intro configV3
    apply sustains_bind (sustains_settled (offhand_ask rfl))
    intro _
    apply sustains_bind (offhand_ask rfl)
    intro isValidConfig
    have written : Offhand stopped (do
        writeConfig world (migrateUserConfig configV3 defaultConfigV4 context.flags.snapshotHeight) context.outputDir
        update (fun store => { store with
          configCoreV4 := some (migrateUserConfig configV3 defaultConfigV4 context.flags.snapshotHeight) })) :=
      sustains_bind (sustains_settled (offhand_ask rfl)) (fun _ => offhand_update _ (fun _ => rfl))
    exact sustains_ite (sustains_bind (sustains_throw _) (fun _ => written)) written
  · exact sustains_pure ()

theorem offhand_createGenesisBlock {header : BlockHeader} {id : Bytes} :
    Offhand stopped (createGenesisBlock world network configFilepath outputDir header id) := by
  apply sustains_handle
  · apply sustains_bind
    · exact offhand_update _ (fun _ => rfl)
    · exact fun _ => sustains_bind (sustains_executed (offhand_ask rfl)) (fun _ => sustains_pure ())
  · exact fun _ => sustains_throw _

theorem offhand_makeGenesisBlock : Offhand stopped (makeGenesisBlock packages world context db defaultConfigFilePath) := by
  apply sustains_bind (sustains_bind (sustains_executed (offhand_ask rfl)) (fun _ => sustains_pure ()))
  intro _
  apply sustains_bind (offhand_ofProcess _)
  intro read
  exact sustains_bind (sustains_defined _ _) (fun _ => offhand_createGenesisBlock)

theorem offhand_writeGenesisFile : Offhand stopped (writeGenesisFile host world outputDir fileName) := by
  apply sustains_bind (sustains_settled (offhand_ask rfl))
  intro hash
  apply sustains_bind (sustains_settled (offhand_ask rfl))
  intro _
  apply sustains_bind (sustains_settled (offhand_ask rfl))
  intro _
  apply sustains_bind (sustains_settled (offhand_ask rfl))
  exact fun _ => sustains_settled (offhand_ask rfl)

theorem offhand_requirePort : Offhand stopped (requirePort world port message) := by
  apply sustains_bind
  · apply sustains_bind (offhand_ask rfl)
    intro reply
    cases reply with
    | ok _ => exact sustains_pure true
    | error fault => exact sustains_ite (sustains_pure false) (sustains_throw _)
  · exact fun _ => sustains_raiseIf _ _

theorem offhand_backupLegacyDataDir : Offhand stopped (backupLegacyDataDir host world liskCoreV3DataPath) := by
  have moves : Offhand stopped (settled (ask world (.rename liskCoreV3DataPath (liskV3BackupDataDir host.homedir)))) :=
    sustains_settled (offhand_ask rfl)
  apply sustains_handle
  · exact sustains_ite (sustains_bind (sustains_settled (offhand_ask rfl)) (fun _ => moves)) moves
  · exact fun _ => sustains_throw _

theorem offhand_customize (tries : Nat) (userInput : String) :
    Offhand stopped (customizeStartCommand world network allowedFlags tries userInput) := by
  induction tries generalizing userInput with
  | zero => exact sustains_pure _
  | succ numTriesLeft ih =>
    apply sustains_ite
    · exact sustains_pure _
    · exact sustains_ite (sustains_bind (sustains_settled (offhand_ask rfl)) ih) (sustains_throw _)

theorem offhand_resolveStartCommand : Offhand stopped (resolveLiskCoreStartCommand world network configPath) := by
  have recorded (command : String) : Offhand stopped (recordStartCommand command) := offhand_update _ (fun _ => rfl)
  apply sustains_bind (sustains_settled (offhand_ask rfl))
  intro isUserConfirmed
  have customized : Offhand stopped (do
      let userInput ← settled (ask world .prompt)
      let allowedFlags ← execAsync world .liskCoreStartHelp
      let customStartCommand ← customizeStartCommand world network (allowedFlagsArray allowedFlags) 3 userInput
      recordStartCommand customStartCommand
      return customStartCommand) := by
    apply sustains_bind (sustains_settled (offhand_ask rfl))
    intro userInput
    apply sustains_bind (sustains_executed (offhand_ask rfl))
    intro allowedFlags
    apply sustains_bind (offhand_customize 3 userInput)
    intro customStartCommand
    exact sustains_bind (recorded _) (fun _ => sustains_pure _)
  exact sustains_ite (sustains_bind (recorded _) (fun _ => sustains_pure _)) customized

theorem offhand_launchLiskCore : Offhand stopped (launchLiskCore host world network outputDir) := by
  apply sustains_bind (sustains_bind (offhand_ask rfl) (fun _ => sustains_ite (sustains_pure _) (sustains_pure _)))
  intro configPath
  apply sustains_bind offhand_resolveStartCommand
  intro script
  apply sustains_bind (sustains_settled (offhand_ask rfl))
  intro isUserConfirmed
  apply sustains_bind (sustains_cliErrorIf _ _)
  intro _
  apply sustains_bind (sustains_bind (sustains_executed (offhand_ask rfl)) (fun _ => sustains_pure ()))
  intro _
  apply sustains_bind (sustains_settled (offhand_ask rfl))
  intro _
  exact sustains_bind (sustains_executed (offhand_ask rfl)) (fun _ => sustains_pure ())

theorem offhand_startLiskCore : Offhand stopped (startLiskCore host world liskCoreV3DataPath config network outputDir) := by
  apply sustains_handle
  · apply sustains_bind (sustains_bind offhand_requirePort (fun _ => offhand_requirePort))
    intro _
    apply sustains_bind offhand_backupLegacyDataDir
    intro _
    apply sustains_bind (sustains_handle (sustains_settled (offhand_ask rfl)) (fun _ => sustains_throw _))
    exact fun _ => offhand_launchLiskCore
  · exact fun _ => sustains_throw _

theorem offhand_confirmAndStart : Offhand stopped (confirmAndStart host world context networkName) := by
  apply sustains_bind sustains_readStore
  intro store
  apply sustains_bind (sustains_settled (offhand_ask rfl))
  intro isUserConfirmed
  exact sustains_ite offhand_startLiskCore (sustains_pure ())

end Offhand

section Node
variable {host : Host} {packages : Packages} {rounds : Nat} {world : World migrator} {context : Context} {stopped : Bool} {path : String}
  {s : Session migrator Store}

theorem Clients.created (clients : Clients stopped s) (may : path ∈ s.store.clientCache → stopped = true) :
    Clients stopped ⟨⟨.createIPCClient path,.ok ()⟩ :: s.events,{ s.store with clientCache := path :: s.store.clientCache }⟩ := by
  have proper : Proper s.events (.createIPCClient path) := by
    refine ⟨?_,?_,?_⟩
    · intro other uses
      cases uses
    · rintro other same present
      cases same
      exact clients.confirmed.mpr (may (clients.cached.symm ▸ present))
    · intro other uses
      cases uses
  refine ⟨⟨proper,clients.disciplined⟩,?_,?_⟩
  · exact congrArg (path :: ·) clients.cached
  · exact (by simp [StopConfirmed] : StopConfirmed (_ :: s.events) ↔ StopConfirmed s.events).trans clients.confirmed

theorem Clients.uncreated (clients : Clients stopped s) (may : path ∈ s.store.clientCache → stopped = true) (fault : Fault) :
    Clients stopped ⟨⟨.createIPCClient path,.error fault⟩ :: s.events,s.store⟩ := by
  have proper := (clients.created may).disciplined.1
  refine ⟨⟨proper,clients.disciplined⟩,clients.cached,?_⟩
  exact (by simp [StopConfirmed] : StopConfirmed (_ :: s.events) ↔ StopConfirmed s.events).trans clients.confirmed

-- After getAPIClient there is a client for the path, and if it was told to make
-- a new one then it just did.
structure Connected (stopped : Bool) (path : String) (s : Session migrator Store) : Prop where
  clients : Clients stopped s
  present : path ∈ s.store.clientCache
  fresh : stopped = true → s.events.head? = some ⟨.createIPCClient path,.ok ()⟩

theorem getAPIClient_connects (s : Session migrator Store) (clients : Clients stopped s) :
    Ends (getAPIClient world path stopped) s (fun _ t => Connected stopped path t) (fun _ t => Clients stopped t) := by
  have read : Ends (readStore : Migration Store) s (fun store t => store = s.store ∧ t = s) (fun _ t => Clients stopped t) :=
    ends_readStore ⟨rfl,rfl⟩
  apply ends_bind read
  rintro store t ⟨rfl,rfl⟩
  apply ends_ite
  · intro creates
    have may : path ∈ t.store.clientCache → stopped = true := fun present => creates.resolve_left (not_not.mpr present)
    have answered : Ends (settled (ask world (.createIPCClient path))) t
        (fun _ next => next = ⟨⟨.createIPCClient path,.ok ()⟩ :: t.events,t.store⟩) (fun _ next => Clients stopped next) := by
      apply ends_settled
      apply ends_ask
      intro reply _
      cases reply with
      | ok _ => rfl
      | error fault => exact clients.uncreated may fault
    apply ends_bind answered
    rintro _ _ rfl
    exact ends_update _ ⟨clients.created may,List.mem_cons_self,fun _ => rfl⟩
  · intro keeps
    obtain ⟨present,kept⟩ := not_or.mp keeps
    exact ends_pure ⟨clients,not_not.mp present,fun again => absurd again kept⟩

theorem connected_used {request : Request} (uses : Uses path request) (connected : Connected stopped path s) (reply : request.Reply) :
    Clients stopped ⟨⟨request,reply⟩ :: s.events,s.store⟩ := connected.clients.used uses connected.present connected.fresh reply

-- As long as v3 has not been stopped, a client that is there stays.
theorem sustains_used {request : Request} (uses : Uses path request) : Sustains (Connected false path) (ask world request : Migration _) :=
  sustains_ask world request (fun _ reply connected =>
    ⟨connected_used uses connected reply,connected.present,fun never => absurd never Bool.false_ne_true⟩)

theorem getNodeInfo_connects (s : Session migrator Store) (clients : Clients false s) :
    Ends (getNodeInfo world path) s (fun _ t => Connected false path t) (fun _ t => Clients false t) := by
  apply ends_bind (getAPIClient_connects s clients)
  intro _ t connected
  apply ends_imp (sustains_settled (sustains_used .getNodeInfo) t connected)
  · exact fun _ _ held => held
  · exact fun _ _ held => held.clients

theorem sustains_getNodeInfo : Offhand false (getNodeInfo world path) := by
  intro s clients
  apply ends_imp (getNodeInfo_connects s clients)
  · exact fun _ _ connected => connected.clients
  · exact fun _ _ clients => clients

theorem sustains_verifyNode : Offhand false (verifyNode host world context) := by
  intro s clients
  apply ends_bind (getNodeInfo_connects s clients)
  intro nodeInfo t connected
  have verified : Sustains (Connected false context.liskCoreV3DataPath) (do
      let snapshotHeight := context.flags.snapshotHeight
      cliErrorIf (snapshotHeight ≠ nodeInfo.backupHeight) (heightMismatch nodeInfo.backupHeight snapshotHeight)
      cliErrorIf (snapshotHeight.tmod roundLength ≠ 0) (invalidHeight snapshotHeight)
      settled (ask world (.subscribeNewBlock context.liskCoreV3DataPath snapshotHeight context.outputDir))
      cliErrorIf (context.flags.autoStartLiskCoreV4 ∧ context.networkConstant.isNone) (unknownNetwork context.networkIdentifier)
      cliErrorIf (¬ host.validVersion nodeInfo.version) (invalidVersion nodeInfo.version)
      cliErrorIf (host.versionBefore nodeInfo.version minSupportedLiskCoreVersion) (incompatibleVersion nodeInfo.version)
      settled (ask world (.observeChainHeight context.liskCoreV3DataPath snapshotHeight))) := by
    apply sustains_bind (sustains_cliErrorIf _ _)
    intro _
    apply sustains_bind (sustains_cliErrorIf _ _)
    intro _
    apply sustains_bind (sustains_settled (sustains_used (.subscribeNewBlock _ _)))
    intro _
    apply sustains_bind (sustains_cliErrorIf _ _)
    intro _
    apply sustains_bind (sustains_cliErrorIf _ _)
    intro _
    apply sustains_bind (sustains_cliErrorIf _ _)
    exact fun _ => sustains_settled (sustains_used (.observeChainHeight _))
  apply ends_imp (verified t connected)
  · exact fun _ _ held => held.clients
  · exact fun _ _ held => held.clients

theorem sustains_prepareSnapshot : Offhand false (prepareSnapshot host world context) := by
  apply sustains_ite
  · apply sustains_ite
    · exact offhand_downloadAndExtract
    · exact sustains_ite (sustains_settled (offhand_ask rfl)) (sustains_pure ())
  · exact sustains_verifyNode

theorem sustains_getNetworkIdentifier : Offhand false (getNetworkIdentifier world network liskCorePath) := by
  have fromNode : Offhand false (do
      let nodeInfo ← getNodeInfo world liskCorePath
      return nodeInfo.networkIdentifier) := sustains_bind sustains_getNodeInfo (fun _ => sustains_pure _)
  unfold getNetworkIdentifier
  cases network with
  | none => exact fromNode
  | some network =>
    apply sustains_ite
    · exact fromNode
    · split
      · exact sustains_pure _
      · exact sustains_throw _

theorem sustains_enterRun : Offhand false (enterRun host world flags) := by
  apply sustains_bind offhand_checkFlags
  intro _
  apply sustains_bind sustains_getNetworkIdentifier
  intro networkIdentifier
  exact sustains_bind (sustains_settled (offhand_ask rfl)) (fun _ => sustains_pure _)

-- Every look at v3 makes a new client.
theorem sustains_isLiskCoreV3Running : Offhand true (isLiskCoreV3Running world path) := by
  apply sustains_handle
  · intro s clients
    apply ends_bind (getAPIClient_connects s clients)
    intro _ t connected
    have asked : Ends (settled (ask world (.getNodeInfo path))) t (fun _ next => Clients true next) (fun _ next => Clients true next) := by
      apply ends_settled
      apply ends_ask
      intro reply _
      cases reply with
      | ok info => exact connected_used .getNodeInfo connected (.ok info)
      | error fault => exact connected_used .getNodeInfo connected (.error fault)
    exact ends_bind asked (fun _ _ held => ends_pure held)
  · exact fun _ => sustains_pure false

theorem sustains_awaitStopped (tries : Nat) : Offhand true (awaitLiskCoreV3Stopped world context snapshotDirPath tries) := by
  induction tries with
  | zero => exact sustains_pure ()
  | succ numTriesLeft ih =>
    have refused {message : String} : Offhand true (do
        let _ ← (raise message : Migration PUnit)
        awaitLiskCoreV3Stopped world context snapshotDirPath numTriesLeft) := sustains_bind (sustains_throw _) (fun _ => ih)
    apply sustains_bind sustains_isLiskCoreV3Running
    intro isCoreV3Running
    apply sustains_ite
    · apply sustains_ite
      · apply sustains_bind (sustains_settled (offhand_ask rfl))
        intro isStopReconfirmed
        apply sustains_ite
        · exact refused
        · apply sustains_ite
          · apply sustains_bind sustains_isLiskCoreV3Running
            intro isCoreV3StillRunning
            exact sustains_ite refused ih
          · exact ih
      · exact ih
    · exact sustains_pure ()

end Node

section Results
variable {host : Host} {packages : Packages} {rounds : Nat} {world : World migrator} {context : Context} {flags : Flags}

-- How the clients stand when nobody keeps in mind whether v3 has been stopped.
def Orderly (s : Session migrator Store) : Prop := ∃ stopped, Clients stopped s

theorem offhand_orderly {x : Migration α} (offhand : ∀ stopped, Offhand stopped x) : Sustains Orderly x := by
  intro s orderly
  obtain ⟨stopped,clients⟩ := orderly
  apply ends_imp (offhand stopped s clients)
  · exact fun _ _ held => ⟨stopped,held⟩
  · exact fun _ _ held => ⟨stopped,held⟩

-- The user confirms: from here on the clients are those of a stopped node.
theorem stop_confirmed (s : Session migrator Store) (clients : Clients false s) :
    Ends (settled (ask world (.confirm .stopLiskCoreV3))) s (fun isLiskCoreV3Stopped t => Clients isLiskCoreV3Stopped t)
      (fun _ t => Orderly t) := by
  have answered {stopped : Bool} (reply : Except Fault Bool) (reached : StopConfirmed (⟨.confirm .stopLiskCoreV3,reply⟩ :: s.events) ↔ stopped = true) :
      Clients stopped ⟨⟨.confirm .stopLiskCoreV3,reply⟩ :: s.events,s.store⟩ := by
    refine ⟨⟨⟨?_,?_,?_⟩,clients.disciplined⟩,clients.cached,reached⟩
    · intro path uses
      cases uses
    · intro path same
      cases same
    · intro path uses
      cases uses
  have unconfirmed : ¬ StopConfirmed s.events := fun confirmed => Bool.false_ne_true (clients.confirmed.mp confirmed)
  apply ends_settled
  apply ends_ask
  intro reply _
  cases reply with
  | error fault => exact ⟨false,answered (.error fault) (by simpa [StopConfirmed] using unconfirmed)⟩
  | ok isLiskCoreV3Stopped =>
    cases isLiskCoreV3Stopped with
    | false => exact answered (.ok false) (by simpa [StopConfirmed] using unconfirmed)
    | true => exact answered (.ok true) (by simp [StopConfirmed])

theorem offhand_first {x : Migration α} {stopped : Bool} (offhand : Offhand stopped x) (s : Session migrator Store)
    (clients : Clients stopped s) : Ends x s (fun _ t => Clients stopped t) (fun _ t => Orderly t) :=
  ends_imp (offhand s clients) (fun _ _ held => held) (fun _ _ held => ⟨stopped,held⟩)

theorem autoStartLiskCore_orderly {networkName snapshotDirPath : String} (s : Session migrator Store) (clients : Clients false s) :
    Ends (autoStartLiskCore host world context networkName snapshotDirPath) s (fun _ t => Orderly t) (fun _ t => Orderly t) := by
  apply ends_bind (offhand_first (sustains_executed (offhand_ask rfl)) s clients)
  intro liskCoreExecPath middle found
  apply ends_bind (offhand_first (sustains_settled (offhand_ask rfl)) middle found)
  intro _ middle copied
  apply ends_bind (stop_confirmed middle copied)
  intro isLiskCoreV3Stopped middle confirmed
  cases isLiskCoreV3Stopped with
  | false => exact ends_throw ⟨false,confirmed⟩
  | true =>
    apply ends_bind (offhand_first (sustains_awaitStopped 3) middle confirmed)
    intro _ last stopped
    exact offhand_orderly (fun _ => offhand_confirmAndStart) last ⟨true,stopped⟩

theorem autoStart_orderly {defaultConfigV4 : ApplicationConfig} {snapshotDirPath : String} (s : Session migrator Store)
    (clients : Clients false s) :
    Ends (autoStart host world context defaultConfigV4 snapshotDirPath) s (fun _ t => Orderly t) (fun _ t => Orderly t) := by
  apply ends_ite
  · exact fun _ => ends_pure ⟨false,clients⟩
  · intro _
    have named (s : Session migrator Store) (clients : Clients false s) : Ends (do
        let network ← defined context.networkConstant "name"
        autoStartLiskCore host world context network.name snapshotDirPath) s (fun _ t => Orderly t) (fun _ t => Orderly t) := by
      apply ends_bind (offhand_first (sustains_defined _ _) s clients)
      exact fun network middle known => autoStartLiskCore_orderly middle known
    apply ends_handle (fun _ t => Orderly t)
    · apply ends_ite
      · intro _
        have based : Offhand false (update (fun store : Store => { store with configCoreV4 := some defaultConfigV4.value })) :=
          offhand_update _ (fun _ => rfl)
        exact ends_bind (offhand_first based s clients) (fun _ middle kept => named middle kept)
      · exact fun _ => named s clients
    · exact fun err t orderly => ends_throw orderly

theorem tryBlock_orderly (s : Session migrator Store) (clients : Clients false s) :
    Ends (tryBlock host packages rounds world context) s (fun _ t => Orderly t) (fun _ t => Orderly t) := by
  apply ends_bind (offhand_first sustains_prepareSnapshot s clients)
  intro _ s clients
  apply ends_bind (offhand_first offhand_createAssets s clients)
  rintro ⟨snapshotDirPath,db,genesisAssets⟩ s clients
  apply ends_bind (offhand_first (sustains_bind (sustains_defined _ _) (fun _ => sustains_pure _)) s clients)
  intro defaultConfigFilePath s clients
  apply ends_bind (offhand_first (sustains_settled (offhand_ask rfl)) s clients)
  intro defaultConfigV4 s clients
  apply ends_bind (offhand_first (sustains_settled (offhand_ask rfl)) s clients)
  intro _ s clients
  apply ends_bind (offhand_first offhand_migrateConfig s clients)
  intro _ s clients
  apply ends_bind (offhand_first offhand_makeGenesisBlock s clients)
  intro _ s clients
  apply ends_bind (offhand_first (sustains_bind offhand_writeGenesisFile (fun _ => offhand_writeGenesisFile)) s clients)
  exact fun _ s clients => autoStart_orderly s clients

theorem run_orderly (flags : Flags) : Orderly (left (LiskMigrator.run host packages rounds world flags ⟨[],.fresh⟩)) := by
  have start : Clients false ⟨[],Store.fresh⟩ := ⟨trivial,rfl,by simp [StopConfirmed]⟩
  apply ends_left
  apply ends_bind (offhand_first sustains_enterRun _ start)
  intro context s clients
  apply ends_bind
  · exact ends_handle _ (tryBlock_orderly s clients) (fun e t orderly => offhand_orderly (fun _ => offhand_onFailure) t orderly)
  · exact fun _ t orderly => offhand_orderly (fun _ => offhand_writeCommands) t orderly

-- A node is asked only by a client that has been created for its path. There is
-- one such client, and only the user's word that v3 has been stopped brings a
-- second one; the looks that follow are all made by a client created for them.
theorem clients_disciplined (flags : Flags) (split : runEvents host packages rounds world flags = earlier ++ event :: later) :
    (∀ path, Uses path event.call → ⟨.createIPCClient path,.ok ()⟩ ∈ earlier) ∧
    (∀ path, event.call = .createIPCClient path → ⟨.createIPCClient path,.ok ()⟩ ∈ earlier →
      ⟨.confirm .stopLiskCoreV3,.ok true⟩ ∈ earlier) ∧
    (∀ path, Uses path event.call → ⟨.confirm .stopLiskCoreV3,.ok true⟩ ∈ earlier →
      earlier.getLast? = some ⟨.createIPCClient path,.ok ()⟩) := by
  have member (path : String) : path ∈ connected earlier.reverse ↔ (⟨.createIPCClient path,.ok ()⟩ : Event migrator) ∈ earlier := by
    unfold connected
    rw [List.mem_filterMap]
    constructor
    · rintro ⟨event,present,made⟩
      unfold created at made
      split at made
      · cases made
        exact List.mem_reverse.mp present
      · cases made
    · exact fun present => ⟨_,List.mem_reverse.mpr present,rfl⟩
  have disciplined : Disciplined (runEvents host packages rounds world flags).reverse := by
    obtain ⟨_,clients⟩ : Orderly (left (LiskMigrator.run host packages rounds world flags ⟨[],.fresh⟩)) := run_orderly flags
    rw [runEvents,List.reverse_reverse]
    exact clients.disciplined
  rw [split,List.reverse_append,List.reverse_cons,List.append_assoc,List.singleton_append] at disciplined
  have proper := disciplined_part later.reverse disciplined
  have confirmed : StopConfirmed earlier.reverse ↔ (⟨.confirm .stopLiskCoreV3,.ok true⟩ : Event migrator) ∈ earlier := List.mem_reverse
  refine ⟨?_,?_,?_⟩
  · exact fun path uses => (member path).mp (proper.served path uses)
  · exact fun path same present => confirmed.mp (proper.single path same ((member path).mpr present))
  · intro path uses stopped
    rw [← List.head?_reverse]
    exact proper.fresh path uses (confirmed.mpr stopped)

end Results

namespace Sample

def evenKey : Bytes := bufferFrom (dbKeyBlocksHeight ++ ":" ++ latin1 [0,0,1,53])

-- The sample chain with a block at height 309.
def evenChain : Database := { database with get := fun key => if key = evenKey then .ok (List.replicate 32 1) else database.get key }

-- A node that answers whenever it is asked, and a user who agrees to all.
def steady : World migrator := fun events request =>
  match request with
  | .createIPCClient _ => .ok ()
  | .getNodeInfo _ => .ok ⟨"3.0.5","4c09e6a781fc4c7bdb936ee815de8f94190f8a7519becd9de2081832be309a99",309⟩
  | .subscribeNewBlock _ _ _ => .ok ()
  | .observeChainHeight _ _ => .ok ()
  | .openDatabase _ => .ok evenChain
  | .copyFile _ _ => .ok ()
  | .confirm _ => .ok true
  | request => served events request

def nodeFlags : Flags := ⟨some "/out",none,309,none,false,true,1,none,none,none⟩

def confirms (event : Event migrator) : Bool :=
  match event with
  | ⟨.confirm .stopLiskCoreV3,.ok stopped⟩ => stopped
  | _ => false

def looks (event : Event migrator) : Bool :=
  match event.call with
  | .getNodeInfo path => path = "/home/lisk/.lisk/lisk-core"
  | _ => false

-- The last one of four looks at the node, which has not been stopped at all.
theorem steady_looks : (((runEvents host packages 4 steady nodeFlags).take 34).any confirms &&
    ((runEvents host packages 4 steady nodeFlags).drop 34).head?.any looks) = true := by decide +kernel

end Sample

theorem clients_disciplined_sample : ∃ earlier event later,
    runEvents Sample.host Sample.packages 4 Sample.steady Sample.nodeFlags = earlier ++ event :: later ∧
      Uses "/home/lisk/.lisk/lisk-core" event.call ∧ earlier.getLast? = some ⟨.createIPCClient "/home/lisk/.lisk/lisk-core",.ok ()⟩ := by
  obtain ⟨confirmed,looked⟩ := Bool.and_eq_true_iff.mp Sample.steady_looks
  have whole := List.take_append_drop 34 (runEvents Sample.host Sample.packages 4 Sample.steady Sample.nodeFlags)
  cases rest : (runEvents Sample.host Sample.packages 4 Sample.steady Sample.nodeFlags).drop 34 with
  | nil =>
    rw [rest] at looked
    cases looked
  | cons event later =>
    rw [rest] at looked whole
    have uses : Uses "/home/lisk/.lisk/lisk-core" event.call := by
      have looks : Sample.looks event = true := looked
      unfold Sample.looks at looks
      split at looks
      · rename_i same
        rw [same,of_decide_eq_true looks]
        exact .getNodeInfo
      · cases looks
    obtain ⟨other,member,confirms⟩ := List.any_eq_true.mp confirmed
    have stopped : (⟨.confirm .stopLiskCoreV3,.ok true⟩ : Event migrator) ∈
        (runEvents Sample.host Sample.packages 4 Sample.steady Sample.nodeFlags).take 34 := by
      unfold Sample.confirms at confirms
      split at confirms
      · cases confirms
        exact member
      · cases confirms
    exact ⟨_,event,later,whole.symm,uses,(clients_disciplined Sample.nodeFlags whole.symm).2.2 _ uses stopped⟩

end LiskMigrator
