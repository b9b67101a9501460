import LiskMigrator.RoundBoundary
import LiskMigrator.RunOrder
import Mathlib.Data.List.Pairwise

namespace LiskMigrator
open Interaction Monitor Outcome Runs

section Knowledge
variable (host : Host) (packages : Packages) (rounds : Nat) (context : Context)

-- What is done of a file when writeGenesisBlock is through with it. The notes
-- hold the checksums made right before them.
def publication (outputDir fileName hash tarballHash : String) : List (Event migrator) :=
  let filepath := Path.resolve host.cwd [outputDir,fileName]
  [⟨.createChecksum filepath,.ok hash⟩,
    ⟨.write (Path.resolve host.cwd [outputDir,fileName ++ ".SHA256"]) hash,.ok ()⟩,
    ⟨.createTarball filepath outputDir,.ok ()⟩,
    ⟨.createChecksum (filepath ++ ".tar.gz"),.ok tarballHash⟩,
    ⟨.write (Path.resolve host.cwd [outputDir,fileName ++ ".tar.gz.SHA256"]) tarballHash,.ok ()⟩]

-- Both files of a genesis block were published right after it was created.
def Published (outputDir : String) (events : List (Event migrator)) : Prop :=
  ∃ earlier command stdout blobHash blobTarballHash jsonHash jsonTarballHash later,
    events = earlier ++ ⟨.exec (.createGenesisBlock command),.ok stdout⟩ ::
      (publication host outputDir fileNameGenesisBlockBlob blobHash blobTarballHash ++
        publication host outputDir fileNameGenesisBlockJson jsonHash jsonTarballHash ++ later)

def Opened (events : List (Event migrator)) (db : Database) : Prop := ∃ path, ⟨.openDatabase path,.ok db⟩ ∈ events

-- The assets of the database lie in the output directory.
def Exported (events : List (Event migrator)) (db : Database) : Prop :=
  ∃ assets, context.assets packages rounds db = .ok assets ∧
    ⟨.writeGenesisAssets (Path.resolve host.cwd [context.outputDir,fileNameGenesisAssets]) assets,.ok ()⟩ ∈ events

-- The files that are not done yet, behind the creation of a genesis block.
def Publishing (events : List (Event migrator)) (todo : List Artefact) (hash : String) : Prop :=
  ∃ earlier command stdout published, events = earlier ++ ⟨.exec (.createGenesisBlock command),.ok stdout⟩ :: published ∧
    run (publishingStep context) (.publishing (artefacts host context.outputDir) "") published = some (.publishing todo hash)

-- What a stage says of the events that led to it.
def Stage.Knows (events : List (Event migrator)) : Stage → Prop
  | .opened db => Opened events db
  | .exported db => Opened events db ∧ Exported host packages rounds context events db
  | .publishing todo hash => Publishing host context events todo hash
  | .placed | .stopping | .declined | .agreed | .backedUp | .copied | .launching | .started =>
    context.startsCore = true ∧ Published host context.outputDir events
  | _ => True

end Knowledge

-- The event by which an artefact is made, and the checksum that is known then.
inductive Made : Artefact → String → Event migrator → String → Prop where
  | checksum (path hash made : String) : Made (.checksum path) hash ⟨.createChecksum path,.ok made⟩ made
  | note (path hash : String) : Made (.note path) hash ⟨.write path hash,.ok ()⟩ hash
  | tarball (path outputDir hash : String) : Made (.tarball path outputDir) hash ⟨.createTarball path outputDir,.ok ()⟩ hash

section Steps
variable {host : Host} {packages : Packages} {rounds : Nat} {context : Context} {stage next : Stage} {event : Event migrator}
  {events : List (Event migrator)} {db : Database} {hash last : String} {todo rest : List Artefact}

theorem opened_more (opened : Opened events db) (more : List (Event migrator)) : Opened (events ++ more) db := by
  obtain ⟨path,member⟩ := opened
  exact ⟨path,List.mem_append_left more member⟩

theorem exported_more (exported : Exported host packages rounds context events db) (more : List (Event migrator)) :
    Exported host packages rounds context (events ++ more) db := by
  obtain ⟨assets,made,member⟩ := exported
  exact ⟨assets,made,List.mem_append_left more member⟩

theorem published_more (published : Published host outputDir events) (more : List (Event migrator)) :
    Published host outputDir (events ++ more) := by
  obtain ⟨earlier,command,stdout,blob,blobTarball,json,jsonTarball,later,split⟩ := published
  refine ⟨earlier,command,stdout,blob,blobTarball,json,jsonTarball,later ++ more,?_⟩
  simp [split]

theorem publishing_more (publishing : Publishing host context events todo hash)
    (stepped : publishingStep context (.publishing todo hash) event = some (.publishing rest last)) :
    Publishing host context (events ++ [event]) rest last := by
  obtain ⟨earlier,command,stdout,published,split,ran⟩ := publishing
  refine ⟨earlier,command,stdout,published ++ [event],by simp [split],?_⟩
  rw [run_snoc,ran]
  exact stepped

theorem publishingStep_made {artefact : Artefact}
    (stepped : publishingStep context (.publishing (artefact :: todo) hash) event = some next) :
    next = .closing ∨ ∃ made, next = .publishing todo made ∧ Made artefact hash event made := by
  generalize same : Stage.publishing (artefact :: todo) hash = stage at stepped
  unfold publishingStep at stepped
  split at stepped
  · rename_i path _ _ filePath reply
    cases same
    obtain ⟨rfl,rfl⟩ := taking_some.mp stepped
    cases reply with
    | ok made => exact .inr ⟨made,rfl,.checksum _ _ _⟩
    | error _ => exact .inl rfl
  · rename_i path _ _ filePath content reply
    cases same
    obtain ⟨⟨rfl,rfl⟩,rfl⟩ := taking_some.mp stepped
    cases reply with
    | ok _ => exact .inr ⟨_,rfl,.note _ _⟩
    | error _ => exact .inl rfl
  · rename_i path dir _ _ filePath outputDir reply
    cases same
    obtain ⟨⟨rfl,rfl⟩,rfl⟩ := taking_some.mp stepped
    cases reply with
    | ok _ => exact .inr ⟨_,rfl,.tarball _ _ _⟩
    | error _ => exact .inl rfl
  · cases same
  · cases same
  · cases stepped

theorem publishing_closed (ran : run (publishingStep context) .closing events = some next) : next = .closing := by
  cases events with
  | nil => exact (Option.some.inj ran).symm
  | cons event rest => simp [run,publishingStep] at ran

theorem publishing_first {artefact : Artefact}
    (ran : run (publishingStep context) (.publishing (artefact :: todo) hash) events = some (.publishing [] last)) :
    ∃ event later made, events = event :: later ∧ Made artefact hash event made ∧
      run (publishingStep context) (.publishing todo made) later = some (.publishing [] last) := by
  cases events with
  | nil => simp [run] at ran
  | cons event later =>
    cases stepped : publishingStep context (.publishing (artefact :: todo) hash) event with
    | none => simp [run,stepped] at ran
    | some next =>
      simp only [run,stepped,Option.bind_some] at ran
      rcases publishingStep_made stepped with rfl | ⟨made,rfl,isMade⟩
      · cases publishing_closed ran
      · exact ⟨event,later,made,rfl,isMade,ran⟩

theorem publishing_file
    (ran : run (publishingStep context) (.publishing (fileArtefacts host outputDir fileName ++ todo) hash) events =
      some (.publishing [] last)) :
    ∃ made tarballMade later, events = publication host outputDir fileName made tarballMade ++ later ∧
      run (publishingStep context) (.publishing todo tarballMade) later = some (.publishing [] last) := by
  obtain ⟨_,_,made,rfl,isSummed,toNote⟩ := publishing_first ran
  cases isSummed
  obtain ⟨_,_,_,rfl,isNoted,toPack⟩ := publishing_first toNote
  cases isNoted
  obtain ⟨_,_,_,rfl,isPacked,toSum⟩ := publishing_first toPack
  cases isPacked
  obtain ⟨_,_,tarballMade,rfl,isSummed,toNoteAgain⟩ := publishing_first toSum
  cases isSummed
  obtain ⟨_,later,_,rfl,isNoted,onward⟩ := publishing_first toNoteAgain
  cases isNoted
  exact ⟨made,tarballMade,later,rfl,onward⟩

-- Without the start of v4 nothing is done behind the second file.
theorem publishing_starts (stepped : publishingStep context (.publishing [] hash) event = some next) : context.startsCore = true := by
  generalize same : Stage.publishing [] hash = stage at stepped
  unfold publishingStep at stepped
  split at stepped
  · cases same
  · cases same
  · cases same
  · exact (taking_some.mp stepped).1
  · exact (taking_some.mp stepped).1.1
  · cases stepped

theorem publishing_over (off : context.startsCore = false)
    (ran : run (publishingStep context) (.publishing [] hash) events = some (.publishing [] last)) : events = [] := by
  cases events with
  | nil => rfl
  | cons event later =>
    cases stepped : publishingStep context (.publishing [] hash) event with
    | none => simp [run,stepped] at ran
    | some next => exact absurd (off.symm.trans (publishing_starts stepped)) Bool.false_ne_true

theorem published_whole (off : context.startsCore = false) (publishing : Publishing host context events [] hash) :
    ∃ earlier command stdout blobHash blobTarballHash jsonHash jsonTarballHash,
      events = earlier ++ ⟨.exec (.createGenesisBlock command),.ok stdout⟩ ::
        (publication host context.outputDir fileNameGenesisBlockBlob blobHash blobTarballHash ++
          publication host context.outputDir fileNameGenesisBlockJson jsonHash jsonTarballHash) := by
  obtain ⟨earlier,command,stdout,published,rfl,ran⟩ := publishing
  obtain ⟨blob,blobTarball,_,rfl,onward⟩ := publishing_file ran
  rw [← List.append_nil (fileArtefacts host context.outputDir fileNameGenesisBlockJson)] at onward
  obtain ⟨json,jsonTarball,later,rfl,finish⟩ := publishing_file onward
  rw [publishing_over off finish,List.append_nil]
  exact ⟨earlier,command,stdout,blob,blobTarball,json,jsonTarball,rfl⟩

theorem published_of (publishing : Publishing host context events [] hash) : Published host context.outputDir events := by
  obtain ⟨earlier,command,stdout,published,rfl,ran⟩ := publishing
  obtain ⟨blob,blobTarball,_,rfl,onward⟩ := publishing_file ran
  rw [← List.append_nil (fileArtefacts host context.outputDir fileNameGenesisBlockJson)] at onward
  obtain ⟨json,jsonTarball,later,rfl,_⟩ := publishing_file onward
  refine ⟨earlier,command,stdout,blob,blobTarball,json,jsonTarball,later,?_⟩
  rw [List.append_assoc]

theorem settling_holds {Holds : Stage → Prop} {reply : Except ε α} {onward : α → Stage} (closed : Holds .closing)
    (answered : ∀ value, reply = .ok value → Holds (onward value)) : Holds (settling reply onward) := by
  cases reply with
  | ok value => exact answered value rfl
  | error _ => exact closed

theorem preparing_knows (stepped : preparingStep context stage event = some next) :
    next.Knows host packages rounds context events := by
  unfold preparingStep at stepped
  split at stepped
  all_goals simp only [taking_some,reduceCtorEq] at stepped
  all_goals
    obtain ⟨_,rfl⟩ := stepped
    apply settling_holds trivial
    intro value _
  all_goals first
    | trivial
    | split <;> trivial

theorem listedStage_knows (dataDir : String) (files : List String) :
    (listedStage dataDir files).Knows host packages rounds context events := by
  cases files <;> trivial

theorem exported_both (exported : Opened events db ∧ Exported host packages rounds context events db)
    (more : List (Event migrator)) : Opened (events ++ more) db ∧ Exported host packages rounds context (events ++ more) db :=
  ⟨opened_more exported.1 more,exported_more exported.2 more⟩

theorem making_knows (stepped : makingStep host packages rounds context stage event = some next)
    (knows : stage.Knows host packages rounds context events) : next.Knows host packages rounds context (events ++ [event]) := by
  unfold makingStep at stepped
  split at stepped
  all_goals simp only [taking_some,reduceCtorEq,Option.some.injEq] at stepped
  · obtain ⟨_,rfl⟩ := stepped
    exact settling_holds trivial (fun files _ => listedStage_knows _ files)
  · obtain ⟨_,rfl⟩ := stepped
    exact settling_holds trivial (fun db same => same ▸ ⟨_,List.mem_append_right _ (List.mem_singleton_self _)⟩)
  · obtain ⟨_,rfl⟩ := stepped
    exact settling_holds trivial (fun db same => same ▸ ⟨_,List.mem_append_right _ (List.mem_singleton_self _)⟩)
  · obtain ⟨_,rfl⟩ := stepped
    exact settling_holds trivial (fun _ _ => opened_more knows _)
  · rename_i db path assets reply
    obtain ⟨⟨rfl,made⟩,rfl⟩ := stepped
    apply settling_holds trivial
    intro _ same
    refine ⟨opened_more knows _,assets,?_,same ▸ List.mem_append_right _ (List.mem_singleton_self _)⟩
    cases init : context.assets packages rounds db with
    | ok own => exact congrArg Except.ok (by simpa [init,Except.toOption] using made)
    | error _ => simp [init,Except.toOption] at made
  · obtain ⟨_,rfl⟩ := stepped
    exact settling_holds trivial (fun _ _ => exported_both knows _)
  · obtain ⟨_,rfl⟩ := stepped
    exact settling_holds trivial (fun _ _ => exported_both knows _)
  · rename_i valid
    obtain ⟨_,rfl⟩ := stepped
    cases valid with
    | true => exact exported_both knows _
    | false => trivial
  · obtain ⟨_,rfl⟩ := stepped
    exact settling_holds trivial (fun _ _ => exported_both knows _)
  · subst stepped
    exact settling_holds trivial (fun _ _ => exported_both knows _)
  · obtain ⟨_,rfl⟩ := stepped
    apply settling_holds trivial
    rintro stdout rfl
    exact ⟨events,_,stdout,[],rfl,rfl⟩

theorem publishing_knows (stepped : publishingStep context stage event = some next)
    (knows : stage.Knows host packages rounds context events) : next.Knows host packages rounds context (events ++ [event]) := by
  unfold publishingStep at stepped
  split at stepped
  all_goals simp only [taking_some,reduceCtorEq] at stepped
  all_goals
    obtain ⟨holds,rfl⟩ := stepped
    apply settling_holds trivial
    rintro value rfl
  all_goals first
    | exact publishing_more knows (taking_pos holds _)
    | exact ⟨holds.1,published_more (published_of knows) _⟩

theorem starting_knows (stepped : startingStep host context stage event = some next)
    (knows : stage.Knows host packages rounds context events) : next.Knows host packages rounds context (events ++ [event]) := by
  unfold startingStep agreeing at stepped
  split at stepped
  all_goals simp only [taking_some,reduceCtorEq,Option.some.injEq] at stepped
  all_goals obtain ⟨_,rfl⟩ := stepped
  all_goals first
    | exact ⟨knows.1,published_more knows.2 _⟩
    | apply settling_holds trivial
      intro value _
  all_goals first
    | exact ⟨knows.1,published_more knows.2 _⟩
    | cases value
      · first
        | trivial
        | exact ⟨knows.1,published_more knows.2 _⟩
      · exact ⟨knows.1,published_more knows.2 _⟩

theorem stage_knows (stepped : stageStep host packages rounds context stage event = some next)
    (knows : stage.Knows host packages rounds context events) : next.Knows host packages rounds context (events ++ [event]) := by
  rcases stageStep_cases stepped with closing | preparing | making | publishing | starting
  · rw [(closingStep_winding closing).1]
    trivial
  · exact preparing_knows preparing
  · exact making_knows making knows
  · exact publishing_knows publishing knows
  · exact starting_knows starting knows

theorem created_exported {command : String} {reply : Except ExecFault String}
    (stepped : stageStep host packages rounds context stage ⟨.exec (.createGenesisBlock command),reply⟩ = some next) :
    ∃ db, stage = .exported db ∧ context.genesisCommand host packages db = some command := by
  rcases stageStep_cases stepped with closing | preparing | making | publishing | starting
  · simp [closingStep] at closing
  · cases stage <;> simp [preparingStep] at preparing
  · cases stage with
    | exported db => exact ⟨db,rfl,(taking_some.mp making).1⟩
    | _ => simp [makingStep] at making
  · cases stage <;> simp [publishingStep] at publishing
  · cases stage <;> simp [startingStep] at starting

theorem genesisCommand_parts {command : String} (known : context.genesisCommand host packages db = some command) :
    ∃ header id network defaultNetwork, getBlockHeaderByHeight packages db context.flags.snapshotHeight = .ok (header,id) ∧
      context.networkConstant = some network ∧ networkOf context.networkIdentifier = some defaultNetwork ∧
      command = genesisBlockCreateCommand network.name (configFilePath host defaultNetwork) context.outputDir header id := by
  unfold Context.genesisCommand at known
  cases found : getBlockHeaderByHeight packages db context.flags.snapshotHeight with
  | error _ => simp [found,Except.toOption] at known
  | ok block =>
    cases network : context.networkConstant with
    | none => simp [found,network,Except.toOption] at known
    | some constant =>
      cases default : networkOf context.networkIdentifier with
      | none => simp [found,network,default,Except.toOption] at known
      | some defaultNetwork =>
        simp only [found,network,default,Except.toOption,bind,Option.bind,pure,Option.some.injEq] at known
        exact ⟨block.1,block.2,constant,defaultNetwork,rfl,rfl,rfl,known.symm⟩

-- What belongs to the start of v4, from the copy of its genesis block on.
def Request.starts : Request → Bool
  | .copyFile _ _ | .confirm _ | .listen _ | .mkdir _ | .rename _ _ | .copyDir _ _ | .prompt | .writeJSON _ _ => true
  | .exec .whichLiskCore | .exec .liskCoreStartHelp | .exec .installPM2 | .exec (.startPM2 _) => true
  | _ => false

theorem starts_published (stepped : stageStep host packages rounds context stage event = some next) (starts : event.call.starts = true)
    (knows : stage.Knows host packages rounds context events) : Published host context.outputDir events := by
  rcases stageStep_cases stepped with closing | preparing | making | publishing | starting
  · unfold closingStep at closing
    split at closing <;> first | cases starts | cases closing
  · unfold preparingStep at preparing
    split at preparing <;> first | cases starts | cases preparing
  · unfold makingStep at making
    split at making <;> first | cases starts | cases making
  · unfold publishingStep at publishing
    split at publishing <;> first | exact published_of knows | exact absurd starts Bool.false_ne_true | cases publishing
  · unfold startingStep at starting
    split at starting <;> first | exact knows.2 | cases starting

end Steps

section Runs
variable {host : Host} {packages : Packages} {rounds : Nat} {flags : Flags} {events : List (Event migrator)} {q next : Progress}
  {event : Event migrator}

def Progress.Knows (host : Host) (packages : Packages) (rounds : Nat) (events : List (Event migrator)) : Progress → Prop
  | .running context stage => stage.Knows host packages rounds context events
  | _ => True

theorem firstStage_knows (context : Context) : (firstStage context).Knows host packages rounds context events := by
  unfold firstStage
  split <;> trivial

theorem protocol_knows (stepped : protocol host packages rounds flags q event = some next)
    (knows : q.Knows host packages rounds events) : next.Knows host packages rounds (events ++ [event]) := by
  unfold protocol at stepped
  split at stepped
  · obtain ⟨_,rfl⟩ := taking_some.mp stepped
    split <;> trivial
  · obtain ⟨_,rfl⟩ := taking_some.mp stepped
    split <;> trivial
  · rename_i networkIdentifier path reply
    obtain ⟨_,rfl⟩ := taking_some.mp stepped
    cases reply with
    | ok _ => exact firstStage_knows (contextOf host flags networkIdentifier)
    | error _ => trivial
  · obtain ⟨onward,taken,rfl⟩ := Option.map_eq_some_iff.mp stepped
    exact stage_knows taken knows
  · cases stepped

theorem start_knows : (protocolStart host flags).Knows host packages rounds [] := by
  unfold protocolStart
  split
  · split
    · split <;> trivial
    · trivial
  · trivial

theorem ran_knows (ran : run (protocol host packages rounds flags) (protocolStart host flags) events = some q) :
    q.Knows host packages rounds events := by
  apply run_history _ _ ran
  · exact start_knows
  · exact fun _ _ _ _ _ stepped knows => protocol_knows stepped knows

end Runs

section Results
variable {host : Host} {packages : Packages} {rounds : Nat} {world : World migrator}

-- What is asked while the network and the output directory are not settled yet.
def Request.enters : Request → Bool
  | .createIPCClient _ | .getNodeInfo _ | .ensureDir _ => true
  | _ => false

theorem protocol_running {event : Event migrator} {q next : Progress} (stepped : protocol host packages rounds flags q event = some next)
    (entered : event.call.enters = false) :
    ∃ context stage onward, q = .running context stage ∧ stageStep host packages rounds context stage event = some onward := by
  unfold protocol at stepped
  split at stepped
  · cases entered
  · cases entered
  · cases entered
  · obtain ⟨onward,taken,_⟩ := Option.map_eq_some_iff.mp stepped
    exact ⟨_,_,onward,rfl,taken⟩
  · cases stepped

theorem starts_entered {request : Request} (starts : request.starts = true) : request.enters = false := by
  cases request with
  | createIPCClient | getNodeInfo | ensureDir => cases starts
  | _ => rfl

-- The protocol has taken what a run did before an event, and then the event itself.
theorem run_split {event : Event migrator} (split : runEvents host packages rounds world flags = earlier ++ event :: later) :
    ∃ q next, run (protocol host packages rounds flags) (protocolStart host flags) earlier = some q ∧
      protocol host packages rounds flags q event = some next := by
  obtain ⟨last,ran⟩ := run_tracked host packages rounds world flags
  rw [split] at ran
  obtain ⟨q,before⟩ := run_before (Option.isSome_iff_exists.mpr ⟨last,ran⟩)
  obtain ⟨next,stepped,_⟩ := takes_next (Option.isSome_iff_exists.mpr ⟨last,ran⟩) ⟨earlier,later,rfl,before⟩
  exact ⟨q,next,before,stepped⟩

-- An event of each landmark occurs once.
theorem landmark_once {one two : Event migrator} {mark : Landmark} (first : one ∈ runEvents host packages rounds world flags)
    (second : two ∈ runEvents host packages rounds world flags) (oneMarked : landmark one = some mark)
    (twoMarked : landmark two = some mark) : one = two := by
  obtain ⟨q,ran⟩ := run_tracked host packages rounds world flags
  have nodup : ((runEvents host packages rounds world flags).filterMap landmark).Nodup :=
    (behind_begins (ran_behind ran)).sublist.nodup (by decide)
  have apart := List.pairwise_filterMap.mp nodup
  have symmetric : Std.Symm (fun a b : Event migrator => ∀ c, landmark a = some c → ∀ d, landmark b = some d → c ≠ d) :=
    ⟨fun _ _ held c marked d also same => held d also c marked same.symm⟩
  by_contra other
  exact apart.forall first second other mark oneMarked mark twoMarked rfl

-- A genesis block is traced to a database: the assets that lie in the output
-- directory are what a fresh process makes of it, and the block continues the one
-- that it has at the height. No other database is opened and no other assets are
-- written in the run.
def Traced (host : Host) (packages : Packages) (rounds : Nat) (flags : Flags) (events earlier : List (Event migrator)) (command : String) :
    Prop :=
  ∃ networkIdentifier network path db assets header id, networkOf networkIdentifier = some network ∧
    ⟨.openDatabase path,.ok db⟩ ∈ earlier ∧
    outcome (CreateAsset.init packages rounds db flags.snapshotHeight network.tokenID flags.pageSize .fresh) = .ok assets ∧
    ⟨.writeGenesisAssets (Path.resolve host.cwd [outputDirOf host flags networkIdentifier,fileNameGenesisAssets]) assets,.ok ()⟩ ∈ earlier ∧
    getBlockHeaderByHeight packages db flags.snapshotHeight = .ok (header,id) ∧
    command = genesisBlockCreateCommand network.name (configFilePath host network) (outputDirOf host flags networkIdentifier) header id ∧
    (∀ other another, ⟨.openDatabase other,.ok another⟩ ∈ events → another = db) ∧
    ∀ other another, ⟨.writeGenesisAssets other another,.ok ()⟩ ∈ events → another = assets

theorem genesis_provenance (flags : Flags) (command : String) (reply : Except ExecFault String)
    (split : runEvents host packages rounds world flags = earlier ++ ⟨.exec (.createGenesisBlock command),reply⟩ :: later) :
    Traced host packages rounds flags (runEvents host packages rounds world flags) earlier command := by
  obtain ⟨q,next,before,stepped⟩ := run_split split
  have knows := ran_knows before
  have origin := ran_from before
  have part : ∀ event ∈ earlier, event ∈ runEvents host packages rounds world flags :=
    fun event member => split ▸ List.mem_append_left _ member
  obtain ⟨context,stage,onward,rfl,taken⟩ := protocol_running stepped rfl
  obtain ⟨networkIdentifier,rfl⟩ := origin
  obtain ⟨db,rfl,known⟩ := created_exported taken
  obtain ⟨header,id,network,defaultNetwork,found,constant,default,same⟩ := genesisCommand_parts known
  cases constant.symm.trans default
  obtain ⟨⟨path,opened⟩,assets,made,exported⟩ := knows
  have inited : outcome (CreateAsset.init packages rounds db flags.snapshotHeight network.tokenID flags.pageSize .fresh) = .ok assets := by
    unfold Context.assets at made
    rw [default] at made
    exact made
  refine ⟨networkIdentifier,network,path,db,assets,header,id,constant,opened,inited,exported,found,same,?_,?_⟩
  · intro other another member
    cases landmark_once member (part _ opened) rfl rfl
    rfl
  · intro other another member
    cases landmark_once member (part _ exported) rfl rfl
    rfl

end Results

namespace Sample

-- An offline run in which everything succeeds.
def served : World migrator := fun events request =>
  match request with
  | .createChecksum _ => .ok "00"
  | .write _ _ => .ok ()
  | .createTarball _ _ => .ok ()
  | request => snapshotOf chain events request

def creates (event : Event migrator) : Bool :=
  match event.call with
  | .exec (.createGenesisBlock _) => true
  | _ => false

theorem served_creates : (runEvents host packages 4 served unevenFlags).any creates = true := by decide +kernel

end Sample

theorem genesis_provenance_sample : ∃ earlier command,
    Traced Sample.host Sample.packages 4 Sample.unevenFlags (runEvents Sample.host Sample.packages 4 Sample.served Sample.unevenFlags) earlier
      command := by
  obtain ⟨⟨request,reply⟩,member,created⟩ := List.any_eq_true.mp Sample.served_creates
  obtain ⟨earlier,later,split⟩ := List.append_of_mem member
  cases request with
  | exec command =>
    cases command with
    | createGenesisBlock command => exact ⟨earlier,command,genesis_provenance Sample.unevenFlags command reply split⟩
    | _ => cases created
  | _ => cases created

section Publication
variable {host : Host} {packages : Packages} {rounds : Nat} {world : World migrator}

-- Both files are published with their checksums before anything of the start of v4
-- is done, and before the run returns.
theorem publication_first (flags : Flags) :
    (∀ earlier event later, runEvents host packages rounds world flags = earlier ++ event :: later → event.call.starts = true →
      ∃ networkIdentifier, Published host (outputDirOf host flags networkIdentifier) earlier) ∧
    ∀ t, LiskMigrator.run host packages rounds world flags ⟨[],.fresh⟩ = .ok () t →
      ∃ networkIdentifier, Published host (outputDirOf host flags networkIdentifier) (runEvents host packages rounds world flags) := by
  constructor
  · intro earlier event later split starts
    obtain ⟨q,next,before,stepped⟩ := run_split split
    have knows := ran_knows before
    have origin := ran_from before
    obtain ⟨context,stage,onward,rfl,taken⟩ := protocol_running stepped (starts_entered starts)
    obtain ⟨networkIdentifier,rfl⟩ := origin
    have published : Published host (contextOf host flags networkIdentifier).outputDir earlier := starts_published taken starts knows
    exact ⟨networkIdentifier,published⟩
  · intro t ran
    obtain ⟨finished,wound,networkIdentifier,stage,split,reached,final,_⟩ := run_finished ran
    have knows := ran_knows reached
    refine ⟨networkIdentifier,?_⟩
    rw [split]
    rcases final with ⟨hash,rfl⟩ | rfl | rfl
    · exact published_more (published_of knows) wound
    · exact published_more knows.2 wound
    · exact published_more knows.2 wound

end Publication
end LiskMigrator
