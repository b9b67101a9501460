import LiskMigrator.Run

namespace LiskMigrator
open Interaction Outcome

-- What of a run the commands for its recovery depend on.
inductive Milestone where
  | opened
  | configRefused
  | installExited (status : ExitStatus)
  | genesisFailed
  | genesisCreated
  | backupFailed
  | backedUp
  | copyFailed
  | copied
  | started
deriving DecidableEq

def milestone : Event migrator → Option Milestone
  | ⟨.openDatabase _,.ok _⟩ => some .opened
  | ⟨.validate _,false⟩ => some .configRefused
  | ⟨.exec .installLiskCore,.error ⟨_,.exit status⟩⟩ => some (.installExited status)
  | ⟨.exec (.createGenesisBlock _),.error _⟩ => some .genesisFailed
  | ⟨.exec (.createGenesisBlock _),.ok _⟩ => some .genesisCreated
  | ⟨.mkdir _,.error _⟩ => some .backupFailed
  | ⟨.rename _ _,.error _⟩ => some .backupFailed
  | ⟨.rename _ _,.ok _⟩ => some .backedUp
  | ⟨.copyDir _ _,.error _⟩ => some .copyFailed
  | ⟨.copyDir _ _,.ok _⟩ => some .copied
  | ⟨.exec (.startPM2 _),.ok _⟩ => some .started
  | _ => none

-- The events that pass a milestone, one by one.
inductive Marked : Event migrator → Milestone → Prop where
  | opened : Marked ⟨.openDatabase path,.ok db⟩ .opened
  | configRefused : Marked ⟨.validate config,false⟩ .configRefused
  | installExited : Marked ⟨.exec .installLiskCore,.error ⟨message,.exit status⟩⟩ (.installExited status)
  | genesisFailed : Marked ⟨.exec (.createGenesisBlock command),.error fault⟩ .genesisFailed
  | genesisCreated : Marked ⟨.exec (.createGenesisBlock command),.ok stdout⟩ .genesisCreated
  | mkdirFailed : Marked ⟨.mkdir path,.error fault⟩ .backupFailed
  | renameFailed : Marked ⟨.rename src dest,.error fault⟩ .backupFailed
  | backedUp : Marked ⟨.rename src dest,.ok ()⟩ .backedUp
  | copyFailed : Marked ⟨.copyDir src dest,.error fault⟩ .copyFailed
  | copied : Marked ⟨.copyDir src dest,.ok ()⟩ .copied
  | started : Marked ⟨.exec (.startPM2 pm2FilePath),.ok stdout⟩ .started

theorem milestone_iff {event : Event migrator} : milestone event = some mark ↔ Marked event mark := by
  constructor
  · intro marked
    unfold milestone at marked
    split at marked <;> cases marked <;> constructor
  · intro marked
    cases marked <;> rfl

-- The milestones of a session, the last one first.
def passed (events : List (Event migrator)) : List Milestone := events.filterMap milestone

-- The errors that a promise, `throw new Error` or `this.error` gives.
inductive Ordinary : Thrown → Prop where
  | error : Ordinary (.error message code)
  | unhandled : Ordinary (.unhandled message)
  | cliError : Ordinary (.cliError message)

def Foreign (e : Thrown) : Prop := ∀ code, e.codeOr code = code

theorem ordinary_fault (fault : Fault) : Ordinary fault.thrown := .error

theorem ordinary_uncoded (ordinary : Ordinary e) : Uncoded e := by
  cases ordinary with
  | @error message code => exact uncoded_fault ⟨message,code⟩
  | unhandled => exact number_undefined
  | cliError => exact number_undefined

theorem ordinary_foreign (ordinary : Ordinary e) : Foreign e := by
  cases ordinary with
  | error => exact fun _ => rfl
  | unhandled => exact fun _ => rfl
  | cliError => exact fun _ => rfl

def Plain (event : Event migrator) : Prop := milestone event = none

-- What of the variables is left alone even where the start command is chosen, and
-- what is left alone anywhere else.
def Store.untouched (store : Store) : Option String × Option Json := (store.genesisBlockCreateCommand,store.configCoreV4)

def Store.remembered (store : Store) : (Option String × Option Json) × Option String := (store.untouched,store.liskCoreStartCommand)

-- A part of run that passes no milestone and leaves those variables alone.
abbrev Quiet (fails : Thrown → Prop) (x : Migration α) : Prop := Keeps Plain Store.remembered fails x

theorem quiet_untouched {x : Migration α} (quiet : Quiet fails x) : Keeps Plain Store.untouched fails x :=
  keeps_shown quiet (fun _ _ => congrArg Prod.fst)

theorem passed_follows (follows : Follows Plain view s t) : passed t.events = passed s.events := by
  obtain ⟨⟨more,split,plain⟩,_⟩ := follows
  have none : more.filterMap milestone = [] := List.filterMap_eq_nil_iff.mpr plain
  unfold passed
  rw [split,List.filterMap_append,none,List.nil_append]

section Rules
variable {fails : Thrown → Prop}

theorem keeps_settled {may : Event migrator → Prop} {x : Migration (Except Fault α)} (keeps : Keeps may view Ordinary x) :
    Keeps may view Ordinary (settled x) := by
  apply keeps_bind keeps
  intro reply
  cases reply with
  | ok value => exact keeps_pure value
  | error fault => exact keeps_throw (ordinary_fault fault)

theorem keeps_executed {may : Event migrator → Prop} {x : Migration (Except ExecFault String)}
    (keeps : Keeps may view Foreign x) : Keeps may view Foreign (executed x) := by
  apply keeps_bind keeps
  intro reply
  cases reply with
  | ok value => exact keeps_pure value
  | error fault => exact keeps_throw (fun _ => rfl)

theorem quiet_foreign {x : Migration α} (quiet : Quiet Ordinary x) : Quiet Foreign x :=
  keeps_imp quiet (fun _ plain => plain) (fun _ ordinary => ordinary_foreign ordinary)

theorem quiet_raise (message : String) : Quiet Ordinary (raise message : Migration α) := keeps_throw .error

theorem quiet_cliError (message : String) : Quiet Ordinary (cliError message : Migration α) := keeps_throw .cliError

theorem quiet_raiseIf (condition : Prop) [Decidable condition] (message : String) : Quiet Ordinary (raiseIf condition message) :=
  keeps_ite (fun _ => quiet_raise message) (fun _ => keeps_pure ())

theorem quiet_cliErrorIf (condition : Prop) [Decidable condition] (message : String) :
    Quiet Ordinary (cliErrorIf condition message) :=
  keeps_ite (fun _ => quiet_cliError message) (fun _ => keeps_pure ())

theorem quiet_defined (value : Option α) (property : String) : Quiet Ordinary (defined value property) := by
  cases value with
  | none => exact quiet_raise _
  | some value => exact keeps_pure value

theorem quiet_ofProcess (step : Step Failure Process α) : Quiet Ordinary (ofProcess step) := by
  intro s
  unfold Ends ofProcess
  cases step s.store.process with
  | ok a process => exact ⟨⟨[],rfl,by simp⟩,rfl⟩
  | error failure process =>
    refine ⟨⟨⟨[],rfl,by simp⟩,rfl⟩,?_⟩
    cases failure with
    | thrown message => exact .error
    | unhandled message => exact .unhandled
    | unfinished => exact .error

end Rules

section Quiet
variable {host : Host} {world : World migrator}

theorem quiet_request {request : Request} (plain : ∀ reply, milestone ⟨request,reply⟩ = none) :
    Quiet fails (ask world request) := keeps_ask world request plain

theorem quiet_getAPIClient : Quiet Ordinary (getAPIClient world liskCorePath isForceInstantiate) := by
  apply keeps_bind keeps_readStore
  intro store
  apply keeps_ite
  · intro _
    apply keeps_bind (keeps_settled (quiet_request fun _ => rfl))
    intro _
    exact keeps_update _ (fun _ => rfl)
  · exact fun _ => keeps_pure ()

theorem quiet_getNodeInfo : Quiet Ordinary (getNodeInfo world liskCorePath) :=
  keeps_bind quiet_getAPIClient (fun _ => keeps_settled (quiet_request fun _ => rfl))

theorem keeps_isPortAvailable {may : Event migrator → Prop} (listens : ∀ port reply, may ⟨.listen port,reply⟩) :
    Keeps may Store.remembered Ordinary (isPortAvailable world port) := by
  apply keeps_bind (keeps_ask world (.listen port) (listens port))
  intro reply
  cases reply with
  | ok _ => exact keeps_pure true
  | error fault => exact keeps_ite (fun _ => keeps_pure false) (fun _ => keeps_throw (ordinary_fault fault))

theorem quiet_getNetworkIdentifier : Quiet Ordinary (getNetworkIdentifier world network liskCorePath) := by
  have fromNode : Quiet Ordinary (do
      let nodeInfo ← getNodeInfo world liskCorePath
      return nodeInfo.networkIdentifier) :=
    keeps_bind quiet_getNodeInfo (fun nodeInfo => keeps_pure nodeInfo.networkIdentifier)
  unfold getNetworkIdentifier
  cases network with
  | none => exact fromNode
  | some network =>
    apply keeps_ite
    · exact fun _ => fromNode
    · intro _
      split
      · exact keeps_pure _
      · exact quiet_raise notIterable

theorem quiet_checkFlags : Quiet Ordinary (checkFlags host flags useSnapshot outputPath) := by
  apply keeps_bind (quiet_cliErrorIf _ _)
  intro _
  apply keeps_bind (quiet_cliErrorIf _ _)
  intro _
  split
  · exact quiet_raise _
  · exact keeps_pure ()

theorem quiet_validatorSections (statuses : List Json) :
    Quiet Ordinary (validatorSections host chainID snapshotHeight outputDir statuses) := by
  induction statuses with
  | nil => exact keeps_pure []
  | cons status rest ih =>
    apply keeps_bind
    · unfold validatorSection
      split
      · exact quiet_raise _
      · exact keeps_pure _
    · exact fun _ => keeps_bind ih (fun _ => keeps_pure _)

theorem quiet_writeCommands :
    Quiet Ordinary (writeCommandsToExec host world network snapshotHeight outputDir commands) := by
  apply keeps_bind
  · apply keeps_bind (quiet_request fun _ => rfl)
    intro found
    apply keeps_ite
    · intro _
      apply keeps_bind (keeps_settled (quiet_request fun _ => rfl))
      intro forgingStatusJson
      apply keeps_bind (quiet_defined _ _)
      intro network
      split
      · exact quiet_raise _
      · exact quiet_validatorSections _
    · exact fun _ => keeps_pure []
  · intro postMigration
    exact keeps_ite (fun _ => keeps_settled (quiet_request fun _ => rfl)) (fun _ => keeps_pure ())

theorem quiet_catchBlock : Quiet Ordinary (catchBlock host world context e) := by
  apply keeps_bind (quiet_defined _ _)
  intro network
  apply keeps_bind keeps_readStore
  intro store
  exact keeps_bind quiet_writeCommands (fun _ => quiet_cliError _)

theorem quiet_enterRun : Quiet Ordinary (enterRun host world flags) := by
  apply keeps_bind quiet_checkFlags
  intro _
  apply keeps_bind quiet_getNetworkIdentifier
  intro networkIdentifier
  apply keeps_bind (keeps_settled (quiet_request fun _ => rfl))
  exact fun _ => keeps_pure _

theorem quiet_downloadAndExtract : Quiet Ordinary (downloadAndExtract world url downloadPath extractionPath) := by
  apply keeps_bind (keeps_settled (quiet_request fun _ => rfl))
  intro _
  apply keeps_bind (keeps_settled (quiet_request fun _ => rfl))
  intro _
  apply keeps_bind
  · apply keeps_bind (keeps_settled (quiet_request fun _ => rfl))
    intro content
    exact keeps_bind (quiet_raiseIf _ _) (fun _ => keeps_pure _)
  intro checksum
  apply keeps_bind
  · exact keeps_bind (keeps_settled (quiet_request fun _ => rfl)) (fun _ => quiet_raiseIf _ _)
  exact fun _ => keeps_settled (quiet_request fun _ => rfl)

theorem quiet_verifyNode : Quiet Ordinary (verifyNode host world context) := by
  apply keeps_bind quiet_getNodeInfo
  intro nodeInfo
  apply keeps_bind (quiet_cliErrorIf _ _)
  intro _
  apply keeps_bind (quiet_cliErrorIf _ _)
  intro _
  apply keeps_bind (keeps_settled (quiet_request fun _ => rfl))
  intro _
  apply keeps_bind (quiet_cliErrorIf _ _)
  intro _
  apply keeps_bind (quiet_cliErrorIf _ _)
  intro _
  apply keeps_bind (quiet_cliErrorIf _ _)
  exact fun _ => keeps_settled (quiet_request fun _ => rfl)

theorem quiet_prepareSnapshot : Quiet Ordinary (prepareSnapshot host world context) := by
  apply keeps_ite
  · intro _
    apply keeps_ite
    · exact fun _ => quiet_downloadAndExtract
    · intro _
      exact keeps_ite (fun _ => keeps_settled (quiet_request fun _ => rfl)) (fun _ => keeps_pure ())
  · exact fun _ => quiet_verifyNode

theorem quiet_setTokenID : Quiet Ordinary (setTokenIDLskByNetID networkIdentifier) :=
  keeps_bind (quiet_defined _ _) (fun _ => keeps_update _ (fun _ => rfl))

theorem quiet_setPrevSnapshotBlockHeight : Quiet Ordinary (setPrevSnapshotBlockHeightByNetID networkIdentifier) :=
  keeps_bind (quiet_defined _ _) (fun _ => keeps_update _ (fun _ => rfl))

theorem quiet_resolveSnapshotPath : Quiet Ordinary (resolveSnapshotPath world useSnapshot snapshotPath dataDir liskCorePath) := by
  apply keeps_ite
  · exact fun _ => keeps_pure _
  · intro _
    split
    · exact keeps_pure _
    · apply keeps_bind (keeps_settled (quiet_request fun _ => rfl))
      intro files
      cases files with
      | nil => exact keeps_throw .error
      | cons name rest => exact keeps_pure _

theorem quiet_resolveConfigPath : Quiet Ordinary (resolveConfigPathByNetworkID host networkIdentifier) :=
  keeps_bind (quiet_defined _ _) (fun _ => keeps_pure _)

theorem quiet_getConfig : Quiet Ordinary (getConfig host world corePath networkIdentifier customConfigPath) := by
  unfold getConfig
  split
  · exact quiet_raise unidentifiedNetwork
  · apply keeps_bind (keeps_settled (quiet_request fun _ => rfl))
    intro dataDirConfig
    split
    · exact keeps_pure _
    · exact keeps_bind (keeps_settled (quiet_request fun _ => rfl)) (fun _ => keeps_pure _)

theorem quiet_writeGenesisFile : Quiet Ordinary (writeGenesisFile host world outputDir fileName) := by
  apply keeps_bind (keeps_settled (quiet_request fun _ => rfl))
  intro hash
  apply keeps_bind (keeps_settled (quiet_request fun _ => rfl))
  intro _
  apply keeps_bind (keeps_settled (quiet_request fun _ => rfl))
  intro _
  apply keeps_bind (keeps_settled (quiet_request fun _ => rfl))
  exact fun _ => keeps_settled (quiet_request fun _ => rfl)

theorem quiet_writeGenesisBlock : Quiet Ordinary (writeGenesisBlock host world outputDir) :=
  keeps_bind quiet_writeGenesisFile (fun _ => quiet_writeGenesisFile)

theorem quiet_isLiskCoreV3Running (fails : Thrown → Prop) : Quiet fails (isLiskCoreV3Running world liskCorePath) := by
  apply keeps_handle
  · apply keeps_bind quiet_getAPIClient
    intro _
    exact keeps_bind (keeps_settled (quiet_request fun _ => rfl)) (fun _ => keeps_pure true)
  · exact fun _ _ => keeps_pure false

theorem quiet_awaitStopped (tries : Nat) : Quiet Ordinary (awaitLiskCoreV3Stopped world context snapshotDirPath tries) := by
  induction tries with
  | zero => exact keeps_pure ()
  | succ numTriesLeft ih =>
    apply keeps_bind (quiet_isLiskCoreV3Running Ordinary)
    intro isCoreV3Running
    apply keeps_ite
    · intro _
      apply keeps_ite
      · intro _
        apply keeps_bind (keeps_settled (quiet_request fun _ => rfl))
        intro isStopReconfirmed
        apply keeps_ite
        · exact fun _ => keeps_bind (quiet_raise _) (fun _ => ih)
        · intro _
          apply keeps_ite
          · intro _
            apply keeps_bind (quiet_isLiskCoreV3Running Ordinary)
            intro isCoreV3StillRunning
            exact keeps_ite (fun _ => keeps_bind (quiet_raise _) (fun _ => ih)) (fun _ => ih)
          · exact fun _ => ih
      · exact fun _ => ih
    · exact fun _ => keeps_pure ()

theorem keeps_requirePort {may : Event migrator → Prop} (listens : ∀ port reply, may ⟨.listen port,reply⟩) :
    Keeps may Store.remembered Ordinary (requirePort world port message) :=
  keeps_bind (keeps_isPortAvailable listens)
    (fun _ => keeps_ite (fun _ => keeps_throw .error) (fun _ => keeps_pure ()))

theorem keeps_checkPorts {may : Event migrator → Prop} (listens : ∀ port reply, may ⟨.listen port,reply⟩) :
    Keeps may Store.remembered Ordinary (checkPorts world config) :=
  keeps_bind (keeps_requirePort listens) (fun _ => keeps_requirePort listens)

theorem quiet_checkPorts : Quiet Ordinary (checkPorts world config) := keeps_checkPorts (fun _ _ => rfl)

theorem quiet_customize (tries : Nat) (userInput : String) :
    Quiet Ordinary (customizeStartCommand world network allowedFlags tries userInput) := by
  induction tries generalizing userInput with
  | zero => exact keeps_pure _
  | succ numTriesLeft ih =>
    apply keeps_ite
    · exact fun _ => keeps_pure _
    · intro _
      apply keeps_ite
      · intro _
        exact keeps_bind (keeps_settled (quiet_request fun _ => rfl)) ih
      · exact fun _ => quiet_raise invalidStartCommand

theorem untouched_resolveStartCommand : Keeps Plain Store.untouched Foreign (resolveLiskCoreStartCommand world network configPath) := by
  have recorded (command : String) : Keeps Plain Store.untouched Foreign (recordStartCommand command) := keeps_update _ (fun _ => rfl)
  apply keeps_bind (quiet_untouched (quiet_foreign (keeps_settled (quiet_request fun _ => rfl))))
  intro isUserConfirmed
  apply keeps_ite
  · exact fun _ => keeps_bind (recorded _) (fun _ => keeps_pure _)
  · intro _
    apply keeps_bind (quiet_untouched (quiet_foreign (keeps_settled (quiet_request fun _ => rfl))))
    intro userInput
    apply keeps_bind (quiet_untouched (keeps_executed (quiet_request fun _ => rfl)))
    intro allowedFlags
    apply keeps_bind (quiet_untouched (quiet_foreign (quiet_customize 3 userInput)))
    intro customStartCommand
    exact keeps_bind (recorded _) (fun _ => keeps_pure _)

theorem quiet_getFinalConfigPath (fails : Thrown → Prop) : Quiet fails (getFinalConfigPath host world outputDir network) :=
  keeps_bind (quiet_request fun _ => rfl) (fun _ => keeps_ite (fun _ => keeps_pure _) (fun _ => keeps_pure _))

theorem quiet_installPM2 : Quiet Foreign (installPM2 world) :=
  keeps_bind (keeps_executed (quiet_request (fun reply => by cases reply <;> rfl))) (fun _ => keeps_pure ())

end Quiet
end LiskMigrator
