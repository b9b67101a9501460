import LiskMigrator.Milestones
import LiskMigrator.ProtocolRun
import LiskMigrator.RecoveryCommands

namespace LiskMigrator
open Interaction Monitor Outcome Runs

def failed (reply : Except ε α) : Bool := !reply.isOk

-- What has failed, or was refused: an error, a configuration that is not valid,
-- and a question that the user says no to. To keep the default start command is
-- no refusal.
def Request.fails : (request : Request) → request.Reply → Bool
  | .createIPCClient _,reply | .getNodeInfo _,reply | .subscribeNewBlock _ _ _,reply | .observeChainHeight _ _,reply
  | .download _ _,reply | .extractTarBall _ _,reply | .openDatabase _,reply | .ensureDir _,reply | .mkdir _,reply
  | .getFiles _,reply | .read _,reply | .readJSON _,reply | .readDefaultConfig _,reply | .write _ _,reply | .writeJSON _ _,reply
  | .writeGenesisAssets _ _,reply | .createBackup _ _,reply | .writeConfig _ _,reply | .createChecksum _,reply
  | .createTarball _ _,reply | .copyFile _ _,reply | .rename _ _,reply | .copyDir _ _,reply | .exec _,reply | .prompt,reply
  | .listen _,reply | .confirm (.customizeStartCommand _),reply => failed reply
  | .confirm _,.ok agreed => !agreed
  | .confirm _,.error _ => true
  | .validate _,valid => !valid
  | .access _,_ => false

-- The steps of a run that cannot be taken back, or that the later ones build on.
inductive Landmark where
  | outputDir
  | database
  | genesisAssets
  | genesisBlock
  | genesisBlockPlaced
  | stopConfirmed
  | configurationConfirmed
  | dataDirMoved
  | legacyDBCopied
  | pm2Confirmed
  | coreStarted
deriving DecidableEq

def Landmark.all : List Landmark :=
  [.outputDir,.database,.genesisAssets,.genesisBlock,.genesisBlockPlaced,.stopConfirmed,.configurationConfirmed,.dataDirMoved,
    .legacyDBCopied,.pm2Confirmed,.coreStarted]

def landmark : Event migrator → Option Landmark
  | ⟨.ensureDir _,.ok _⟩ => some .outputDir
  | ⟨.openDatabase _,.ok _⟩ => some .database
  | ⟨.writeGenesisAssets _ _,.ok _⟩ => some .genesisAssets
  | ⟨.exec (.createGenesisBlock _),.ok _⟩ => some .genesisBlock
  | ⟨.copyFile _ _,.ok _⟩ => some .genesisBlockPlaced
  | ⟨.confirm .stopLiskCoreV3,.ok true⟩ => some .stopConfirmed
  | ⟨.confirm (.configuration _),.ok true⟩ => some .configurationConfirmed
  | ⟨.rename _ _,.ok _⟩ => some .dataDirMoved
  | ⟨.copyDir _ _,.ok _⟩ => some .legacyDBCopied
  | ⟨.confirm (.pm2Configuration _),.ok true⟩ => some .pm2Confirmed
  | ⟨.exec (.startPM2 _),.ok _⟩ => some .coreStarted
  | _ => none

-- How many landmarks lie behind a stage. Behind the closing one it may be any.
def Stage.rank : Stage → Nat
  | .preparing | .fetched | .bothFetched | .expecting _ | .verified | .prepared | .located _ => 1
  | .opened _ => 2
  | .exported _ => 3
  | .publishing _ _ => 4
  | .placed => 5
  | .stopping | .declined => 6
  | .agreed => 7
  | .backedUp => 8
  | .copied => 9
  | .launching => 10
  | .started | .closing => 11

section Steps
variable {host : Host} {packages : Packages} {rounds : Nat} {context : Context} {stage next : Stage} {event : Event migrator}

theorem taking_some {condition : Prop} [Decidable condition] {next taken : State} :
    taking condition next = some taken ↔ condition ∧ next = taken := by
  unfold taking
  split
  · simp [*]
  · simp [*]

theorem stageStep_cases (stepped : stageStep host packages rounds context stage event = some next) :
    closingStep host context stage event = some next ∨ preparingStep context stage event = some next ∨
      makingStep host packages rounds context stage event = some next ∨ publishingStep context stage event = some next ∨
      startingStep host context stage event = some next := by
  unfold stageStep at stepped
  simp only [Option.or_eq_some_iff] at stepped
  tauto

-- A look whether v3 still runs, whose failure says that it does not.
def Request.looks : Request → Bool
  | .createIPCClient _ => true
  | .getNodeInfo _ => true
  | _ => false

def failing (event : Event migrator) : Bool := event.call.fails event.reply

-- A step ends all but the writing of the commands, or leaves the run as far as it
-- was, or passes the next landmark. A failure does one of the first two.
inductive Advance (stage : Stage) (event : Event migrator) (next : Stage) : Prop where
  | closes (ended : next = .closing) (unmarked : landmark event = none)
  | stays (same : next.rank = stage.rank) (unmarked : landmark event = none)
      (held : failing event = false ∨ next = .declined ∨ stage = .stopping ∧ event.call.looks = true)
  | passes (mark : Landmark) (marked : landmark event = some mark) (further : next.rank = stage.rank+1)
      (due : Landmark.all[stage.rank]? = some mark) (held : failing event = false)

theorem settling_advance {made : Except ε α → Event migrator} {reply : Except ε α} {onward : α → Stage}
    (unmarked : ∀ e, landmark (made (.error e)) = none) (done : ∀ value, Advance stage (made (.ok value)) (onward value)) :
    Advance stage (made reply) (settling reply onward) := by
  cases reply with
  | ok value => exact done value
  | error e => exact .closes rfl (unmarked e)

theorem closing_advance (stepped : closingStep host context stage event = some next) : Advance stage event next := by
  unfold closingStep at stepped
  split at stepped
  all_goals simp only [taking_some,reduceCtorEq] at stepped
  all_goals
    obtain ⟨_,rfl⟩ := stepped
    exact .closes rfl rfl

theorem preparing_advance (stepped : preparingStep context stage event = some next) : Advance stage event next := by
  unfold preparingStep at stepped
  split at stepped
  all_goals simp only [taking_some,reduceCtorEq] at stepped
  all_goals
    obtain ⟨_,rfl⟩ := stepped
    apply settling_advance (fun _ => rfl)
    intro value
  all_goals first
    | exact .stays rfl rfl (.inl rfl)
    | split
      · exact .closes rfl rfl
      · exact .stays rfl rfl (.inl rfl)
    | split
      · exact .stays rfl rfl (.inl rfl)
      · exact .closes rfl rfl

theorem making_advance (stepped : makingStep host packages rounds context stage event = some next) : Advance stage event next := by
  unfold makingStep at stepped
  split at stepped
  all_goals simp only [taking_some,reduceCtorEq,Option.some.injEq] at stepped
  all_goals obtain ⟨_,rfl⟩ := stepped
  all_goals first
    | apply settling_advance (fun _ => rfl)
      intro value
    | rename_i valid _
      cases valid
      · exact .closes rfl rfl
      · exact .stays rfl rfl (.inl rfl)
  all_goals first
    | exact .stays rfl rfl (.inl rfl)
    | exact .passes _ rfl rfl rfl rfl
    | cases value
      · exact .closes rfl rfl
      · exact .stays rfl rfl (.inl rfl)

theorem publishing_advance (stepped : publishingStep context stage event = some next) : Advance stage event next := by
  unfold publishingStep at stepped
  split at stepped
  all_goals simp only [taking_some,reduceCtorEq] at stepped
  all_goals
    obtain ⟨_,rfl⟩ := stepped
    apply settling_advance (fun _ => rfl)
    intro value
  all_goals first
    | exact .stays rfl rfl (.inl rfl)
    | exact .passes _ rfl rfl rfl rfl

theorem starting_advance (stepped : startingStep host context stage event = some next) : Advance stage event next := by
  unfold startingStep agreeing at stepped
  split at stepped
  all_goals simp only [taking_some,reduceCtorEq,Option.some.injEq] at stepped
  all_goals obtain ⟨_,rfl⟩ := stepped
  all_goals first
    | exact .stays rfl rfl (.inl rfl)
    | exact .stays rfl rfl (.inr (.inr ⟨rfl,rfl⟩))
    | apply settling_advance (fun _ => rfl)
      intro value
  all_goals first
    | exact .stays rfl rfl (.inl rfl)
    | exact .passes _ rfl rfl rfl rfl
    | cases value
      · first
        | exact .closes rfl rfl
        | exact .stays rfl rfl (.inr (.inl rfl))
      · first
        | exact .stays rfl rfl (.inl rfl)
        | exact .passes _ rfl rfl rfl rfl

theorem stage_advance (stepped : stageStep host packages rounds context stage event = some next) : Advance stage event next := by
  rcases stageStep_cases stepped with closing | preparing | making | publishing | starting
  · exact closing_advance closing
  · exact preparing_advance preparing
  · exact making_advance making
  · exact publishing_advance publishing
  · exact starting_advance starting

-- What is asked when nothing is left but to write the commands.
inductive Winding (host : Host) (outputDir : String) : Request → Prop where
  | access : Winding host outputDir (.access (Path.resolve host.cwd [outputDir,fileNameForgingStatus]))
  | readJSON : Winding host outputDir (.readJSON (Path.resolve host.cwd [outputDir,fileNameForgingStatus]))
  | write (content : String) : Winding host outputDir (.write (Path.resolve host.cwd [outputDir,fileNameCommandsToExec]) content)

theorem closingStep_winding (stepped : closingStep host context stage event = some next) :
    next = .closing ∧ Winding host context.outputDir event.call := by
  unfold closingStep at stepped
  split at stepped
  all_goals simp only [taking_some,reduceCtorEq] at stepped
  · obtain ⟨rfl,rfl⟩ := stepped
    exact ⟨rfl,.access⟩
  · obtain ⟨rfl,rfl⟩ := stepped
    exact ⟨rfl,.readJSON⟩
  · obtain ⟨rfl,rfl⟩ := stepped
    exact ⟨rfl,.write _⟩

-- Nothing else follows the closing stage, or a configuration that is declined.
theorem final_step (final : stage = .closing ∨ stage = .declined)
    (stepped : stageStep host packages rounds context stage event = some next) :
    next = .closing ∧ Winding host context.outputDir event.call := by
  rcases stageStep_cases stepped with closing | preparing | making | publishing | starting
  · exact closingStep_winding closing
  · rcases final with rfl | rfl <;> simp [preparingStep] at preparing
  · rcases final with rfl | rfl <;> simp [makingStep] at making
  · rcases final with rfl | rfl <;> simp [publishingStep] at publishing
  · rcases final with rfl | rfl <;> simp [startingStep] at starting

end Steps

section Runs
variable {host : Host} {packages : Packages} {rounds : Nat} {flags : Flags} {events : List (Event migrator)} {q next : Progress}
  {event : Event migrator}

-- The landmarks that lie behind the protocol's state.
def Progress.Behind : Progress → List Landmark → Prop
  | .running _ .closing,marks => marks <+: Landmark.all
  | .running _ stage,marks => marks = Landmark.all.take stage.rank
  | _,marks => marks = []

theorem behind_taken {stage : Stage} (taken : marks = Landmark.all.take stage.rank) : (Progress.running context stage).Behind marks := by
  cases stage with
  | closing => exact taken ▸ List.take_prefix _ _
  | _ => exact taken

theorem behind_begins (behind : q.Behind marks) : marks <+: Landmark.all := by
  cases q with
  | running context stage =>
    cases stage with
    | closing => exact behind
    | _ => exact behind ▸ List.take_prefix _ _
  | _ => exact behind ▸ List.nil_prefix

theorem behind_open {stage : Stage} (behind : (Progress.running context stage).Behind marks) (opened : stage ≠ .closing) :
    marks = Landmark.all.take stage.rank := by
  cases stage with
  | closing => exact absurd rfl opened
  | _ => exact behind

theorem stage_behind {stage onward : Stage} (stepped : stageStep host packages rounds context stage event = some onward)
    (behind : (Progress.running context stage).Behind marks) :
    (Progress.running context onward).Behind (marks ++ (landmark event).toList) := by
  by_cases final : stage = .closing
  · obtain ⟨rfl,winding⟩ := final_step (.inl final) stepped
    have unmarked : landmark event = none := by
      obtain ⟨request,reply⟩ := event
      cases winding <;> rfl
    rw [unmarked,Option.toList_none,List.append_nil]
    exact behind_begins behind
  · have taken := behind_open behind final
    cases stage_advance stepped with
    | closes ended unmarked =>
      rw [ended,unmarked,Option.toList_none,List.append_nil]
      exact behind_begins behind
    | stays same unmarked _ =>
      rw [unmarked,Option.toList_none,List.append_nil]
      exact behind_taken (same ▸ taken)
    | passes mark marked further due _ =>
      apply behind_taken
      rw [further,marked,List.take_add_one,due,taken]

theorem firstStage_rank (context : Context) : (firstStage context).rank = 1 := by
  unfold firstStage
  split <;> rfl

theorem protocol_behind (stepped : protocol host packages rounds flags q event = some next) (behind : q.Behind marks) :
    next.Behind (marks ++ (landmark event).toList) := by
  unfold protocol at stepped
  split at stepped
  · obtain ⟨_,rfl⟩ := taking_some.mp stepped
    rw [show marks = [] from behind]
    split <;> rfl
  · obtain ⟨_,rfl⟩ := taking_some.mp stepped
    rw [show marks = [] from behind]
    split <;> rfl
  · rename_i networkIdentifier path reply
    obtain ⟨_,rfl⟩ := taking_some.mp stepped
    rw [show marks = [] from behind]
    cases reply with
    | error _ => rfl
    | ok _ =>
      apply behind_taken
      rw [firstStage_rank]
      rfl
  · obtain ⟨stage,taken,rfl⟩ := Option.map_eq_some_iff.mp stepped
    exact stage_behind taken behind
  · cases stepped

theorem start_behind : (protocolStart host flags).Behind [] := by
  unfold protocolStart
  split
  · split
    · split <;> rfl
    · rfl
  · rfl

-- What a run of the protocol has passed, whatever it was answered.
theorem ran_behind (ran : run (protocol host packages rounds flags) (protocolStart host flags) events = some q) :
    q.Behind (events.filterMap landmark) := by
  apply run_history _ _ ran
  · exact start_behind
  · intro before t event next _ stepped behind
    have last : [event].filterMap landmark = (landmark event).toList := by
      cases marked : landmark event with
      | none => exact List.filterMap_cons_none marked
      | some mark => exact List.filterMap_cons_some marked
    rw [List.filterMap_append,last]
    exact protocol_behind stepped behind

-- The context of a run is that of the flags, in some network.
def Progress.From (host : Host) (flags : Flags) : Progress → Prop
  | .running context _ => ∃ networkIdentifier, context = contextOf host flags networkIdentifier
  | _ => True

theorem protocol_from (stepped : protocol host packages rounds flags q event = some next) (origin : q.From host flags) :
    next.From host flags := by
  unfold protocol at stepped
  split at stepped
  · obtain ⟨_,rfl⟩ := taking_some.mp stepped
    split <;> trivial
  · obtain ⟨_,rfl⟩ := taking_some.mp stepped
    split <;> trivial
  · rename_i networkIdentifier path reply
    obtain ⟨_,rfl⟩ := taking_some.mp stepped
    cases reply with
    | ok _ => exact ⟨networkIdentifier,rfl⟩
    | error _ => trivial
  · obtain ⟨_,_,rfl⟩ := Option.map_eq_some_iff.mp stepped
    exact origin
  · cases stepped

theorem start_from : (protocolStart host flags).From host flags := by
  unfold protocolStart
  split
  · split
    · split <;> trivial
    · trivial
  · trivial

theorem ran_from (ran : run (protocol host packages rounds flags) (protocolStart host flags) events = some q) : q.From host flags := by
  apply run_history _ _ ran
  · exact start_from
  · exact fun _ _ _ _ _ stepped origin => protocol_from stepped origin

-- The states behind a setback, and what can still be asked in them.
def Progress.Over : Progress → Prop
  | .refused => True
  | .running _ stage => stage = .closing ∨ stage = .declined
  | _ => False

def Progress.Winds (host : Host) : Progress → Request → Prop
  | .running context _,request => Winding host context.outputDir request
  | _,_ => False

theorem over_step (past : q.Over) (stepped : protocol host packages rounds flags q event = some next) :
    next.Over ∧ q.Winds host event.call ∧ next.Winds host = q.Winds host := by
  cases q with
  | refused => cases stepped
  | entering => exact past.elim
  | identified _ => exact past.elim
  | running context stage =>
    obtain ⟨onward,taken,rfl⟩ := Option.map_eq_some_iff.mp stepped
    obtain ⟨closed,winding⟩ := final_step past taken
    exact ⟨.inl closed,winding,rfl⟩

theorem over_winds (past : q.Over) (ran : run (protocol host packages rounds flags) q events = some next) :
    ∀ event ∈ events, q.Winds host event.call := by
  induction events generalizing q with
  | nil => simp
  | cons event rest ih =>
    cases stepped : protocol host packages rounds flags q event with
    | none => simp [run,stepped] at ran
    | some middle =>
      obtain ⟨still,winding,same⟩ := over_step past stepped
      simp only [run,stepped,Option.bind_some] at ran
      intro other member
      rcases List.mem_cons.mp member with rfl | later
      · exact winding
      · exact same ▸ ih still ran other later

theorem setback_over (stepped : protocol host packages rounds flags q event = some next) (behind : q.Behind marks)
    (fails : failing event = true) (asked : event.call.looks = true → .stopConfirmed ∉ marks) : next.Over := by
  unfold protocol at stepped
  split at stepped
  · rename_i path reply
    obtain ⟨_,rfl⟩ := taking_some.mp stepped
    cases reply with
    | ok _ => cases fails
    | error _ => trivial
  · rename_i path reply
    obtain ⟨_,rfl⟩ := taking_some.mp stepped
    cases reply with
    | ok _ => cases fails
    | error _ => trivial
  · rename_i networkIdentifier path reply
    obtain ⟨_,rfl⟩ := taking_some.mp stepped
    cases reply with
    | ok _ => cases fails
    | error _ => trivial
  · rename_i context stage event
    obtain ⟨onward,taken,rfl⟩ := Option.map_eq_some_iff.mp stepped
    cases stage_advance taken with
    | closes ended _ => exact .inl ended
    | stays _ _ held =>
      rcases held with fine | declined | ⟨stopping,looks⟩
      · exact absurd (fails.symm.trans fine) (by simp)
      · exact .inr declined
      · have confirmed : marks = Landmark.all.take 6 := by
          rw [stopping] at behind
          exact behind
        exact absurd (confirmed ▸ (by decide : Landmark.stopConfirmed ∈ Landmark.all.take 6)) (asked looks)
    | passes _ _ _ _ fine => exact absurd (fails.symm.trans fine) (by simp)
  · cases stepped

end Runs

section Order
variable {host : Host} {packages : Packages} {rounds : Nat} {world : World migrator} {flags : Flags}

def runEvents (host : Host) (packages : Packages) (rounds : Nat) (world : World migrator) (flags : Flags) : List (Event migrator) :=
  (left (LiskMigrator.run host packages rounds world flags ⟨[],.fresh⟩)).events.reverse

theorem run_tracks (host : Host) (packages : Packages) (rounds : Nat) (world : World migrator) (flags : Flags) :
    ∃ q, Tracks world (protocol host packages rounds flags) (protocolStart host flags) q
      (left (LiskMigrator.run host packages rounds world flags ⟨[],.fresh⟩)) :=
  guides_run run_in (tracks_start Store.fresh) ⟨rfl,rfl⟩

-- All that a run asks and is answered, from its start, is a run of the protocol.
theorem run_tracked (host : Host) (packages : Packages) (rounds : Nat) (world : World migrator) (flags : Flags) :
    ∃ q, run (protocol host packages rounds flags) (protocolStart host flags) (runEvents host packages rounds world flags) = some q := by
  obtain ⟨q,tracks⟩ := run_tracks host packages rounds world flags
  exact ⟨q,tracks.ran⟩

theorem run_answered (split : runEvents host packages rounds world flags = earlier ++ later) : Answered world earlier.reverse := by
  obtain ⟨q,tracks⟩ := run_tracks host packages rounds world flags
  apply answered_part later.reverse
  rw [← List.reverse_append,← split]
  unfold runEvents
  rw [List.reverse_reverse]
  exact tracks.answered

-- The commands are all that is written at the end.
theorem writeCommands_winding {network : Option NetworkConfigLocal} {snapshotHeight : Int} {commands : List (Option String)} :
    Keeps (fun event => Winding host outputDir event.call) (fun _ => ()) Ordinary
      (writeCommandsToExec host world network snapshotHeight outputDir commands) := by
  have raised {α : Type} (message : String) : Keeps (fun event => Winding host outputDir event.call) (fun _ => ()) Ordinary
      (raise message : Migration α) := keeps_throw .error
  have listed (chainID : Nat) (statuses : List Json) : Keeps (fun event => Winding host outputDir event.call) (fun _ => ()) Ordinary
      (validatorSections host chainID snapshotHeight outputDir statuses) := by
    induction statuses with
    | nil => exact keeps_pure []
    | cons status rest ih =>
      apply keeps_bind
      · unfold validatorSection
        split
        · exact raised _
        · exact keeps_pure _
      · exact fun _ => keeps_bind ih (fun _ => keeps_pure _)
  apply keeps_bind
  · apply keeps_bind (keeps_ask world _ (fun _ => .access))
    intro found
    apply keeps_ite
    · intro _
      apply keeps_bind (keeps_settled (keeps_ask world _ (fun _ => .readJSON)))
      intro forgingStatusJson
      apply keeps_bind
      · unfold defined
        split
        · exact keeps_pure _
        · exact raised _
      · intro constant
        split
        · exact raised _
        · exact listed _ _
    · exact fun _ => keeps_pure []
  · intro postMigration
    exact keeps_ite (fun _ => keeps_settled (keeps_ask world _ (fun _ => .write _))) (fun _ => keeps_pure ())

theorem runEvents_returned (ran : LiskMigrator.run host packages rounds world flags ⟨[],.fresh⟩ = .ok () t) :
    runEvents host packages rounds world flags = t.events.reverse := by
  unfold runEvents
  rw [ran]
  rfl

-- A run that returns has come to an end of the protocol before it wrote the commands.
theorem run_finished (ran : LiskMigrator.run host packages rounds world flags ⟨[],.fresh⟩ = .ok () t) :
    ∃ finished wound networkIdentifier stage, runEvents host packages rounds world flags = finished ++ wound ∧
      run (protocol host packages rounds flags) (protocolStart host flags) finished =
        some (.running (contextOf host flags networkIdentifier) stage) ∧ stage.Finished ∧
      ∀ event ∈ wound, Winding host (outputDirOf host flags networkIdentifier) event.call := by
  have ended : Ends (LiskMigrator.run host packages rounds world flags) ⟨[],.fresh⟩
      (fun _ t => ∃ finished wound context stage, t.events.reverse = finished ++ wound ∧
        run (protocol host packages rounds flags) (protocolStart host flags) finished = some (.running context stage) ∧
        stage.Finished ∧ ∀ event ∈ wound, Winding host context.outputDir event.call) (fun _ _ => True) := by
    apply ends_bind (ends_imp (enterRun_in _ _ (tracks_start Store.fresh) ⟨rfl,rfl⟩) (fun _ _ held => held) (fun _ _ _ => trivial))
    intro context s entered
    obtain ⟨q,tracked,standing⟩ := entered
    have tried : Ends (handle (tryBlock host packages rounds world context) (onFailure host world context)) s
        (fun _ t => ∃ next, Tracks world (protocol host packages rounds flags) (protocolStart host flags) next t ∧ Finishing context next t.store)
        (fun _ _ => True) := by
      apply ends_handle _ (tryBlock_in q s tracked standing)
      intro e t halted
      obtain ⟨next,reached,stage,stands⟩ := halted
      apply ends_imp (onFailure_in next t reached ⟨stands,trivial⟩)
      · intro _ _ never
        obtain ⟨_,_,never⟩ := never
        exact never.elim
      · exact fun _ _ _ => trivial
    apply ends_bind tried
    intro _ t finished
    obtain ⟨next,reached,stage,rfl,final⟩ := finished
    apply ends_imp (writeCommands_winding t : Ends _ t _ _)
    · intro _ u follows
      obtain ⟨⟨more,split,winding⟩,_⟩ := follows
      refine ⟨t.events.reverse,more.reverse,context,stage,by rw [split,List.reverse_append],reached.ran,final,?_⟩
      exact fun event member => winding event (List.mem_reverse.mp member)
    · exact fun _ _ _ => trivial
  obtain ⟨finished,wound,context,stage,split,reached,final,winding⟩ := ends_ok ended ran
  obtain ⟨networkIdentifier,rfl⟩ := ran_from reached
  exact ⟨finished,wound,networkIdentifier,stage,(runEvents_returned ran).trans split,reached,final,winding⟩

-- Whatever the world answers, a run does what the protocol takes. Where it returns,
-- the protocol has come to its end before the commands were written.
theorem run_refines_protocol (flags : Flags) :
    (run (protocol host packages rounds flags) (protocolStart host flags) (runEvents host packages rounds world flags)).isSome ∧
      ∀ t, LiskMigrator.run host packages rounds world flags ⟨[],.fresh⟩ = .ok () t →
        ∃ finished wound networkIdentifier stage, runEvents host packages rounds world flags = finished ++ wound ∧
          run (protocol host packages rounds flags) (protocolStart host flags) finished =
            some (.running (contextOf host flags networkIdentifier) stage) ∧
          stage.Finished ∧ ∀ event ∈ wound, Winding host (outputDirOf host flags networkIdentifier) event.call := by
  constructor
  · obtain ⟨q,ran⟩ := run_tracked host packages rounds world flags
    exact Option.isSome_iff_exists.mpr ⟨q,ran⟩
  · exact fun t ran => run_finished ran

-- A run passes its landmarks in their order, none of them twice.
theorem run_landmarks (flags : Flags) : (runEvents host packages rounds world flags).filterMap landmark <+: Landmark.all := by
  obtain ⟨q,ran⟩ := run_tracked host packages rounds world flags
  exact behind_begins (ran_behind ran)

-- After a failure or a refusal a run does nothing but write the commands.
theorem setback_final (flags : Flags) (split : runEvents host packages rounds world flags = earlier ++ event :: later)
    (fails : failing event = true) (asked : event.call.looks = true → .stopConfirmed ∉ earlier.filterMap landmark) :
    ∃ networkIdentifier, ∀ next ∈ later, Winding host (outputDirOf host flags networkIdentifier) next.call := by
  obtain ⟨q,ran⟩ : ∃ q, run (protocol host packages rounds flags) (protocolStart host flags) (earlier ++ event :: later) = some q :=
    split ▸ run_tracked host packages rounds world flags
  obtain ⟨before,earlierRan⟩ := run_before (Option.isSome_iff_exists.mpr ⟨q,ran⟩)
  rw [run_append,earlierRan,Option.bind_some] at ran
  cases stepped : protocol host packages rounds flags before event with
  | none => simp [run,stepped] at ran
  | some next =>
    simp only [run,stepped,Option.bind_some] at ran
    have past := setback_over stepped (ran_behind earlierRan) fails asked
    have winds := over_winds past ran
    cases next with
    | running context stage =>
      obtain ⟨networkIdentifier,rfl⟩ := protocol_from stepped (ran_from earlierRan)
      exact ⟨networkIdentifier,winds⟩
    | refused => exact ⟨"",fun other member => (winds other member).elim⟩
    | entering => exact past.elim
    | identified _ => exact past.elim

end Order

theorem setback_final_sample : ∃ networkIdentifier, ∀ next ∈ [(⟨.access "/out/forgingStatus.json",false⟩ : Event migrator)],
    Winding Sample.host (outputDirOf Sample.host Sample.offlineFlags networkIdentifier) next.call := by
  have split : runEvents Sample.host Sample.packages 0 Sample.offline Sample.offlineFlags =
      [⟨.ensureDir "/out",.ok ()⟩] ++ ⟨.openDatabase "/snapshot",.error Sample.failed⟩ ::
        [⟨.access "/out/forgingStatus.json",false⟩] := rfl
  exact setback_final Sample.offlineFlags split rfl (fun looks => Bool.noConfusion looks)

end LiskMigrator
