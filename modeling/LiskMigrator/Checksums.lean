import LiskMigrator.Locations
import LiskMigrator.Provenance
import Mathlib.Data.List.TakeWhile

namespace LiskMigrator
open FileTree Interaction Monitor Outcome Runs Words

-- The contents of files as the program reads and writes them: as texts, and by
-- their digests, which are written in hexadecimal.
structure Files (File : Type) where
  text : String → File
  read : File → String
  digest : File → String
  read_text : ∀ content, read (text content) = content
  digest_word : ∀ file, ' ' ∉ (digest file).toList

def firstWord (content : String) : String := String.ofList (content.toList.takeWhile (· ≠ ' '))

def tarballSuffix : String := ".tar.gz"

def checksumSuffix : String := ".SHA256"

section World
variable {File : Type} (host : Host) (files : Files File)

-- The places whose contents a request may change. Of most requests nothing is said.
def Touches : Request → Location → Prop
  | .download _ path,place => place = locate host path
  | .write path _,place => place = locate host path
  | .createTarball path outputDir,place =>
    place = locate host (outputDir ++ "/" ++ (Path.segments path).getLastD "" ++ tarballSuffix)
  | .read _,_ | .createChecksum _,_ | .access _,_ | .readJSON _,_ => False
  | _,_ => True

-- A world that keeps files: `contents` is what lies where after some events, and
-- `served` what the servers of the URLs deliver.
structure Keeping (served : String → File) (contents : List (Event migrator) → Location → Option File) (world : World migrator) : Prop where
  reads : ∀ events path content, world events (.read path) = .ok content →
    ∃ file, contents events (locate host path) = some file ∧ content = files.read file
  sums : ∀ events path checksum, world events (.createChecksum path) = .ok checksum →
    ∃ file, contents events (locate host path) = some file ∧ checksum = files.digest file
  downloads : ∀ events url path, contents (⟨.download url path,.ok ()⟩ :: events) (locate host path) = some (served url)
  writes : ∀ events path content, contents (⟨.write path content,.ok ()⟩ :: events) (locate host path) = some (files.text content)
  keeps : ∀ event events place, ¬ Touches host event.call place → contents (event :: events) place = contents events place

-- A file with a note beside it that begins with its digest.
def Verified (here : Location → Option File) (dir : Location) (name : String) : Prop :=
  ∃ file note, here (dir ++ [name]) = some file ∧ here (dir ++ [name ++ checksumSuffix]) = some note ∧
    firstWord (files.read note) = files.digest file

end World

-- A world that answers for its files itself, and otherwise as `rest` does.
section Keeper
variable {File : Type} (host : Host) (files : Files File) (served : String → File) (pack : File → File) (created : Location → Option File)

def filesAfter : List (Event migrator) → Location → Option File
  | [],_ => none
  | ⟨.download url path,.ok _⟩ :: events,place => if place = locate host path then some (served url) else filesAfter events place
  | ⟨.write path content,.ok _⟩ :: events,place => if place = locate host path then some (files.text content) else filesAfter events place
  | ⟨.createTarball path outputDir,.ok _⟩ :: events,place =>
    if place = locate host (outputDir ++ "/" ++ (Path.segments path).getLastD "" ++ tarballSuffix) then
      (filesAfter events (locate host path)).map pack
    else filesAfter events place
  | ⟨.exec (.createGenesisBlock _),.ok _⟩ :: events,place => (created place).or (filesAfter events place)
  | _ :: events,place => filesAfter events place

def keeper (rest : World migrator) : World migrator := fun events request =>
  match request with
  | .read path => ((filesAfter host files served pack created events (locate host path)).map files.read).elim (.error ⟨"ENOENT",none⟩) .ok
  | .createChecksum path =>
    ((filesAfter host files served pack created events (locate host path)).map files.digest).elim (.error ⟨"ENOENT",none⟩) .ok
  | request => rest events request

theorem elim_ok {reply : Option String} {fault : Fault} (answered : reply.elim (.error fault) .ok = (.ok value : Except Fault String)) :
    reply = some value := by
  cases reply with
  | none => cases answered
  | some told =>
    cases answered
    rfl

theorem keeper_keeping (rest : World migrator) :
    Keeping host files served (filesAfter host files served pack created) (keeper host files served pack created rest) where
  reads := by
    intro events path content answered
    obtain ⟨file,lies,same⟩ := Option.map_eq_some_iff.mp (elim_ok answered)
    exact ⟨file,lies,same.symm⟩
  sums := by
    intro events path checksum answered
    obtain ⟨file,lies,same⟩ := Option.map_eq_some_iff.mp (elim_ok answered)
    exact ⟨file,lies,same.symm⟩
  downloads := fun _ _ _ => if_pos rfl
  writes := fun _ _ _ => if_pos rfl
  keeps := by
    intro event events place untouched
    obtain ⟨request,reply⟩ := event
    cases request with
    | download url path =>
      cases reply with
      | ok _ => exact if_neg untouched
      | error _ => rfl
    | write path content =>
      cases reply with
      | ok _ => exact if_neg untouched
      | error _ => rfl
    | createTarball path outputDir =>
      cases reply with
      | ok _ => exact if_neg untouched
      | error _ => rfl
    | exec command => exact absurd trivial untouched
    | _ => rfl

end Keeper

section Stages
variable (context : Context)

-- How a downloaded snapshot is verified, to the last step.
def verification (content : String) : List (Event migrator) :=
  [⟨.download context.snapshotURL context.tarballPath,.ok ()⟩,
    ⟨.download (context.snapshotURL ++ checksumSuffix) (downloadedFilePath (context.snapshotURL ++ checksumSuffix) context.outputDir),.ok ()⟩,
    ⟨.read (context.tarballPath ++ checksumSuffix),.ok content⟩,
    ⟨.createChecksum context.tarballPath,.ok (firstWord content)⟩]

def Downloading (steps : Nat) (content : String) (events : List (Event migrator)) : Prop :=
  context.source = .url context.snapshotURL ∧ ∃ before, events = before ++ (verification context content).take steps

-- Behind the preparation a snapshot from a URL has been verified.
def Late (events : List (Event migrator)) : Prop :=
  ∀ url, context.source = .url url → ∃ before content rest, content ≠ "" ∧ events = before ++ verification context content ++ rest

-- What a stage says of the download of the snapshot.
def Stage.Checked (events : List (Event migrator)) : Stage → Prop
  | .preparing | .closing => True
  | .fetched => ∃ content, Downloading context 1 content events
  | .bothFetched => ∃ content, Downloading context 2 content events
  | .expecting checksum => ∃ content, content ≠ "" ∧ checksum = firstWord content ∧ Downloading context 3 content events
  | .verified => ∃ content, content ≠ "" ∧ Downloading context 4 content events
  | _ => Late context events

end Stages

section Steps
variable {host : Host} {packages : Packages} {rounds : Nat} {context : Context} {stage next : Stage} {event : Event migrator}
  {events : List (Event migrator)}

theorem late_more (late : Late context events) (more : List (Event migrator)) : Late context (events ++ more) := by
  intro url remote
  obtain ⟨before,content,rest,filled,split⟩ := late url remote
  exact ⟨before,content,rest ++ more,filled,by rw [split,List.append_assoc]⟩

theorem source_url (remote : context.source = .url url) : url = context.snapshotURL := by
  unfold Context.source at remote
  split at remote
  · split at remote
    · exact (SnapshotSource.url.inj remote).symm
    · split at remote <;> cases remote
  · cases remote

theorem late_other (other : ∀ url, context.source ≠ .url url) : Late context events :=
  fun url remote => absurd remote (other url)

theorem downloading_next {steps : Nat} (downloading : Downloading context steps content events)
    (step : (verification context content)[steps]? = some event) : Downloading context (steps+1) content (events ++ [event]) := by
  obtain ⟨source,before,split⟩ := downloading
  refine ⟨source,before,?_⟩
  rw [List.take_add_one,step,split,List.append_assoc]
  rfl

theorem preparing_checked (stepped : preparingStep context stage event = some next) (checked : stage.Checked context events) :
    next.Checked context (events ++ [event]) := by
  unfold preparingStep at stepped
  split at stepped
  all_goals simp only [taking_some,reduceCtorEq] at stepped
  all_goals
    obtain ⟨holds,rfl⟩ := stepped
    apply settling_holds trivial
    rintro value rfl
  · obtain ⟨remote,rfl⟩ := holds
    cases source_url remote
    exact ⟨"",remote,events,rfl⟩
  · obtain ⟨near,_⟩ := holds
    exact late_other (fun url remote => by cases near.symm.trans remote)
  · trivial
  · trivial
  · trivial
  · obtain ⟨online,_⟩ := holds
    exact late_other (fun url remote => by cases online.symm.trans remote)
  · obtain ⟨rfl,rfl⟩ := holds
    obtain ⟨content,downloading⟩ := checked
    exact ⟨content,downloading_next downloading rfl⟩
  · cases holds
    obtain ⟨content,source,before,split⟩ := checked
    change Stage.Checked context (events ++ [_]) (if value = "" then .closing else .expecting (firstWord value))
    split
    · trivial
    · rename_i filled
      have downloading : Downloading context 2 value events := ⟨source,before,split⟩
      exact ⟨value,filled,rfl,downloading_next downloading rfl⟩
  · cases holds
    obtain ⟨content,filled,rfl,downloading⟩ := checked
    split
    · rename_i same
      cases same
      exact ⟨content,filled,downloading_next downloading rfl⟩
    · trivial
  · obtain ⟨content,filled,_,before,split⟩ := checked
    exact late_more (fun _ _ => ⟨before,content,[],filled,split.trans (List.append_nil _).symm⟩) _

theorem making_checked (stepped : makingStep host packages rounds context stage event = some next) (checked : stage.Checked context events) :
    next.Checked context (events ++ [event]) := by
  unfold makingStep at stepped
  split at stepped
  all_goals simp only [taking_some,reduceCtorEq,Option.some.injEq] at stepped
  all_goals obtain ⟨_,rfl⟩ := stepped
  all_goals first
    | apply settling_holds trivial
      intro value _
    | rename_i valid _
      cases valid
      · trivial
      · exact late_more checked _
  all_goals first
    | exact late_more checked _
    | cases value
      · trivial
      · exact late_more checked _

theorem publishing_checked (stepped : publishingStep context stage event = some next) (checked : stage.Checked context events) :
    next.Checked context (events ++ [event]) := by
  unfold publishingStep at stepped
  split at stepped
  all_goals simp only [taking_some,reduceCtorEq] at stepped
  all_goals
    obtain ⟨_,rfl⟩ := stepped
    exact settling_holds trivial (fun _ _ => late_more checked _)

theorem starting_checked (stepped : startingStep host context stage event = some next) (checked : stage.Checked context events) :
    next.Checked context (events ++ [event]) := by
  unfold startingStep agreeing at stepped
  split at stepped
  all_goals simp only [taking_some,reduceCtorEq,Option.some.injEq] at stepped
  all_goals obtain ⟨_,rfl⟩ := stepped
  all_goals first
    | exact late_more checked _
    | apply settling_holds trivial
      intro value _
  all_goals first
    | exact late_more checked _
    | cases value
      · first
        | trivial
        | exact late_more checked _
      · exact late_more checked _

theorem stage_checked (stepped : stageStep host packages rounds context stage event = some next) (checked : stage.Checked context events) :
    next.Checked context (events ++ [event]) := by
  rcases stageStep_cases stepped with closing | preparing | making | publishing | starting
  · rw [(closingStep_winding closing).1]
    trivial
  · exact preparing_checked preparing checked
  · exact making_checked making checked
  · exact publishing_checked publishing checked
  · exact starting_checked starting checked

-- What is done with a snapshot once it is there.
def Request.usesSnapshot : Request → Bool
  | .extractTarBall _ _ | .openDatabase _ => true
  | _ => false

theorem used_checked (stepped : stageStep host packages rounds context stage event = some next) (uses : event.call.usesSnapshot = true)
    (remote : context.source = .url url) (checked : stage.Checked context events) :
    ∃ before content rest, content ≠ "" ∧ events = before ++ verification context content ++ rest ∧
      ∀ src dest, event.call = .extractTarBall src dest → src = context.tarballPath ∧ rest = [] := by
  have opened {path : String} {reply : Except Fault Database} (late : Late context events) (same : event = ⟨.openDatabase path,reply⟩) :
      ∃ before content rest, content ≠ "" ∧ events = before ++ verification context content ++ rest ∧
        ∀ src dest, event.call = .extractTarBall src dest → src = context.tarballPath ∧ rest = [] := by
    obtain ⟨before,content,rest,filled,split⟩ := late url remote
    refine ⟨before,content,rest,filled,split,?_⟩
    intro src dest extracts
    rw [same] at extracts
    cases extracts
  rcases stageStep_cases stepped with closing | preparing | making | publishing | starting
  · unfold closingStep at closing
    split at closing <;> first | exact absurd uses Bool.false_ne_true | cases closing
  · unfold preparingStep at preparing
    split at preparing
    all_goals first
      | exact absurd uses Bool.false_ne_true
      | cases preparing
      | obtain ⟨holds,_⟩ := taking_some.mp preparing
    · cases holds.1.symm.trans remote
    · obtain ⟨rfl,rfl⟩ := holds
      obtain ⟨content,filled,_,before,split⟩ := checked
      refine ⟨before,content,[],filled,split.trans (List.append_nil _).symm,?_⟩
      intro src dest extracts
      cases extracts
      exact ⟨rfl,rfl⟩
  · unfold makingStep at making
    split at making
    all_goals first
      | exact absurd uses Bool.false_ne_true
      | exact opened checked rfl
      | cases making
  · unfold publishingStep at publishing
    split at publishing <;> first | exact absurd uses Bool.false_ne_true | cases publishing
  · unfold startingStep at starting
    split at starting <;> first | exact absurd uses Bool.false_ne_true | cases starting

end Steps

section Runs
variable {host : Host} {packages : Packages} {rounds : Nat} {flags : Flags} {events : List (Event migrator)} {q next : Progress}
  {event : Event migrator}

def Progress.Checked (events : List (Event migrator)) : Progress → Prop
  | .running context stage => stage.Checked context events
  | _ => True

theorem firstStage_checked (context : Context) : (firstStage context).Checked context events := by
  unfold firstStage
  split
  · rename_i bare
    exact late_other (fun url remote => by cases bare.symm.trans remote)
  · trivial

theorem protocol_checked (stepped : protocol host packages rounds flags q event = some next) (checked : q.Checked events) :
    next.Checked (events ++ [event]) := by
  unfold protocol at stepped
  split at stepped
  · obtain ⟨_,rfl⟩ := taking_some.mp stepped
    split <;> trivial
  · obtain ⟨_,rfl⟩ := taking_some.mp stepped
    split <;> trivial
  · rename_i networkIdentifier path reply
    obtain ⟨_,rfl⟩ := taking_some.mp stepped
    cases reply with
    | ok _ => exact firstStage_checked (contextOf host flags networkIdentifier)
    | error _ => trivial
  · obtain ⟨onward,taken,rfl⟩ := Option.map_eq_some_iff.mp stepped
    exact stage_checked taken checked
  · cases stepped

theorem start_checked : (protocolStart host flags).Checked [] := by
  unfold protocolStart
  split
  · split
    · split <;> trivial
    · trivial
  · trivial

theorem ran_checked (ran : run (protocol host packages rounds flags) (protocolStart host flags) events = some q) : q.Checked events := by
  apply run_history _ _ ran
  · exact start_checked
  · exact fun _ _ _ _ _ stepped checked => protocol_checked stepped checked

-- A run that gets anywhere was started with flags that are accepted.
theorem ran_accepted (ran : run (protocol host packages rounds flags) (protocolStart host flags) events = some (.running context stage)) :
    Accepted host flags := by
  by_contra unaccepted
  have start : protocolStart host flags = .refused := if_neg unaccepted
  rw [start] at ran
  cases events with
  | nil => cases ran
  | cons event rest => simp [run,protocol] at ran

theorem accepted_url (networkIdentifier : String) (accepted : Accepted host flags) (remote : given flags.snapshotURL = true) :
    (contextOf host flags networkIdentifier).source = .url (flags.snapshotURL.getD "") ∧
      endsWith (flags.snapshotURL.getD "") "tar.gz" = true := by
  obtain ⟨_,formed,_⟩ := accepted
  obtain ⟨starts,ends⟩ := formed remote
  refine ⟨?_,ends⟩
  have uses : (contextOf host flags networkIdentifier).useSnapshot = true := by
    change (given (snapshotPathOf host flags) || given flags.snapshotURL) = true
    rw [remote,Bool.or_true]
  unfold Context.source
  rw [if_pos uses]
  exact if_pos starts

end Runs

section Served
variable {File : Type} {host : Host} {packages : Packages} {rounds : Nat} {world : World migrator} {files : Files File}
  {served : String → File} {contents : List (Event migrator) → Location → Option File}

-- The file that is downloaded and the note on it are two entries of the directory.
theorem note_apart (dir : Location) (name : String) : dir ++ [name ++ checksumSuffix] ≠ dir ++ [name] := by
  intro same
  have names := List.append_cancel_left same
  have letters := congrArg (fun text => text.toList.length) (List.cons.inj names).1
  simp [checksumSuffix] at letters

theorem tarball_located (entry : Path.EntryName (urlName url)) (dir : String) :
    locate host (downloadedFilePath url dir) = locate host dir ++ [urlName url] := locate_join entry dir

theorem note_spelled (entry : Path.EntryName (urlName url)) (longer : Path.EntryName (urlName url ++ checksumSuffix)) (dir : String) :
    downloadedFilePath (url ++ checksumSuffix) dir = downloadedFilePath url dir ++ checksumSuffix := by
  have named : urlName (url ++ checksumSuffix) = urlName url ++ checksumSuffix := urlName_longer (by decide) url
  have joined : downloadedFilePath (url ++ checksumSuffix) dir = Path.join [dir,urlName (url ++ checksumSuffix)] := rfl
  rw [joined,named,← join_more entry longer]
  rfl

theorem tarball_entry (ends : endsWith url "tar.gz" = true) :
    Path.EntryName (urlName url) ∧ Path.EntryName (urlName url ++ checksumSuffix) := by
  refine ⟨urlName_entry (by decide) (by decide) ends,?_⟩
  have named : urlName (url ++ checksumSuffix) = urlName url ++ checksumSuffix := urlName_longer (by decide) url
  have longer : endsWith (url ++ checksumSuffix) checksumSuffix = true := by
    unfold endsWith
    rw [String.toList_append]
    exact List.isSuffixOf_iff_suffix.mpr (List.suffix_append _ _)
  exact named ▸ urlName_entry (by decide) (by decide) longer

theorem verification_sound (keeping : Keeping host files served contents world) {context : Context}
    (ends : endsWith context.snapshotURL "tar.gz" = true) (before : List (Event migrator)) (content : String)
    (answered : Answered world (before ++ verification context content).reverse) :
    files.digest (served context.snapshotURL) = firstWord (files.read (served (context.snapshotURL ++ checksumSuffix))) ∧
      contents (before ++ verification context content).reverse (locate host context.tarballPath) = some (served context.snapshotURL) := by
  obtain ⟨entry,longer⟩ := tarball_entry ends
  have spelled : downloadedFilePath (context.snapshotURL ++ checksumSuffix) context.outputDir = context.tarballPath ++ checksumSuffix :=
    note_spelled entry longer context.outputDir
  have here : locate host context.tarballPath = locate host context.outputDir ++ [urlName context.snapshotURL] :=
    tarball_located entry context.outputDir
  have noted : locate host (downloadedFilePath (context.snapshotURL ++ checksumSuffix) context.outputDir) =
      locate host context.outputDir ++ [urlName context.snapshotURL ++ checksumSuffix] := by
    rw [spelled]
    exact (congrArg (locate host) (join_more entry longer context.outputDir)).trans (locate_join longer context.outputDir)
  have apart : ¬ Touches host (.download (context.snapshotURL ++ checksumSuffix)
      (downloadedFilePath (context.snapshotURL ++ checksumSuffix) context.outputDir)) (locate host context.tarballPath) := by
    intro same
    exact note_apart _ _ (noted.symm.trans (same.symm.trans here))
  unfold verification at answered ⊢
  simp only [List.reverse_append,List.reverse_cons,List.reverse_nil,List.nil_append,List.cons_append] at answered ⊢
  obtain ⟨summed,wasRead,_⟩ := answered
  obtain ⟨note,found,told⟩ := keeping.reads _ _ _ wasRead.symm
  rw [← spelled,keeping.downloads] at found
  cases found
  obtain ⟨file,lies,same⟩ := keeping.sums _ _ _ summed.symm
  rw [keeping.keeps _ _ _ id,keeping.keeps _ _ _ apart,keeping.downloads] at lies
  cases lies
  refine ⟨same.symm.trans (congrArg firstWord told),?_⟩
  rw [keeping.keeps _ _ _ id,keeping.keeps _ _ _ id,keeping.keeps _ _ _ apart,keeping.downloads]

-- A run that uses a snapshot from a URL has verified it to the last step.
theorem used_verification (flags : Flags) (remote : given flags.snapshotURL = true)
    (split : runEvents host packages rounds world flags = earlier ++ event :: later) (uses : event.call.usesSnapshot = true) :
    ∃ networkIdentifier before content, endsWith (flags.snapshotURL.getD "") "tar.gz" = true ∧
      Answered world (before ++ verification (contextOf host flags networkIdentifier) content).reverse ∧
      ∀ src dest, event.call = .extractTarBall src dest → src = (contextOf host flags networkIdentifier).tarballPath ∧
        earlier = before ++ verification (contextOf host flags networkIdentifier) content := by
  obtain ⟨q,next,ran,stepped⟩ := run_split split
  have entered : event.call.enters = false := by
    cases request : event.call with
    | createIPCClient | getNodeInfo | ensureDir =>
      rw [request] at uses
      exact absurd uses Bool.false_ne_true
    | _ => rfl
  obtain ⟨context,stage,onward,rfl,taken⟩ := protocol_running stepped entered
  obtain ⟨networkIdentifier,rfl⟩ := ran_from ran
  obtain ⟨source,ends⟩ := accepted_url networkIdentifier (ran_accepted ran) remote
  obtain ⟨before,content,rest,filled,whole,extracts⟩ := used_checked taken uses source (ran_checked ran)
  refine ⟨networkIdentifier,before,content,ends,?_,?_⟩
  · apply answered_part rest.reverse
    rw [← List.reverse_append,← whole]
    exact run_answered split
  · intro src dest extracted
    obtain ⟨rfl,rfl⟩ := extracts src dest extracted
    rw [whole,List.append_nil]
    exact ⟨rfl,rfl⟩

-- A snapshot from a URL is unpacked, and a database opened, only where the file
-- that was served has the digest that was served beside it. What is unpacked is
-- that file.
theorem snapshot_verified (keeping : Keeping host files served contents world) (flags : Flags) (remote : given flags.snapshotURL = true)
    (split : runEvents host packages rounds world flags = earlier ++ event :: later) (uses : event.call.usesSnapshot = true) :
    files.digest (served (flags.snapshotURL.getD "")) = firstWord (files.read (served (flags.snapshotURL.getD "" ++ checksumSuffix))) ∧
      ∀ src dest, event.call = .extractTarBall src dest →
        contents earlier.reverse (locate host src) = some (served (flags.snapshotURL.getD "")) := by
  obtain ⟨networkIdentifier,before,content,ends,answered,extracts⟩ := used_verification flags remote split uses
  have formed : endsWith (contextOf host flags networkIdentifier).snapshotURL "tar.gz" = true := ends
  obtain ⟨same,lies⟩ := verification_sound keeping formed before content answered
  refine ⟨same,?_⟩
  intro src dest extracted
  obtain ⟨rfl,rfl⟩ := extracts src dest extracted
  exact lies

end Served

namespace Sample

def digests : Files String where
  text := id
  read := id
  digest file :=
    if file = "archive" then "0eb3e36bfb24dcd9bb1d1bece1531216b59539a8fde17ee80224af0653c92aa3"
    else if file = "block" then "496aca80e4d8f29fb8e8cd816c3afb48d3f103970b3a2ee1600c08ca67326dee"
    else if file = "packed block" then "ecf0bc82e1adbd428eb97d99200959eecc628100731f90d3db9bfa44d2f8489a"
    else ""
  read_text := fun _ => rfl
  digest_word := by
    intro file
    split
    · decide
    · split
      · decide
      · split <;> decide

-- A server with a snapshot and the note on it.
def snapshots (url : String) : String :=
  if endsWith url checksumSuffix then "0eb3e36bfb24dcd9bb1d1bece1531216b59539a8fde17ee80224af0653c92aa3 blocks.tar.gz" else "archive"

def genesisFiles (place : Location) : Option String :=
  if place = ["out",fileNameGenesisBlockBlob] ∨ place = ["out",fileNameGenesisBlockJson] then some "block" else none

def downloading : World migrator := keeper host digests snapshots ("packed " ++ ·) genesisFiles (fun events request =>
  match request with
  | .download _ _ => .ok ()
  | .extractTarBall _ _ => .ok ()
  | request => served events request)

def urlFlags : Flags := ⟨some "/out",none,300,none,false,false,1,none,some "http://snapshots/blocks.tar.gz",some "mainnet"⟩

def extracts (event : Event migrator) : Bool :=
  match event.call with
  | .extractTarBall _ _ => true
  | _ => false

theorem extracts_tarball (extracted : extracts event = true) : ∃ src dest, event.call = .extractTarBall src dest := by
  unfold extracts at extracted
  split at extracted
  · rename_i src dest same
    exact ⟨src,dest,same⟩
  · cases extracted

theorem downloading_extracts : (runEvents host packages 4 downloading urlFlags).any extracts = true := by decide +kernel

end Sample

theorem snapshot_verified_sample : Sample.digests.digest (Sample.snapshots "http://snapshots/blocks.tar.gz") =
      firstWord (Sample.digests.read (Sample.snapshots ("http://snapshots/blocks.tar.gz" ++ checksumSuffix))) ∧
    ∃ earlier src dest reply later,
      runEvents Sample.host Sample.packages 4 Sample.downloading Sample.urlFlags = earlier ++ ⟨.extractTarBall src dest,reply⟩ :: later ∧
      filesAfter Sample.host Sample.digests Sample.snapshots ("packed " ++ ·) Sample.genesisFiles earlier.reverse (locate Sample.host src) =
        some (Sample.snapshots "http://snapshots/blocks.tar.gz") := by
  obtain ⟨⟨call,reply⟩,member,extracted⟩ := List.any_eq_true.mp Sample.downloading_extracts
  obtain ⟨src,dest,rfl⟩ := Sample.extracts_tarball extracted
  obtain ⟨earlier,later,split⟩ := List.append_of_mem member
  obtain ⟨matching,unpacked⟩ := snapshot_verified (keeper_keeping Sample.host Sample.digests Sample.snapshots ("packed " ++ ·)
    Sample.genesisFiles _) Sample.urlFlags rfl split rfl
  exact ⟨matching,earlier,src,dest,reply,later,split,unpacked src dest rfl⟩

section Published
variable {File : Type} {host : Host} {packages : Packages} {rounds : Nat} {world : World migrator} {files : Files File}
  {served : String → File} {contents : List (Event migrator) → Location → Option File} {place : Location} {hash tarballHash : String}

theorem contents_kept (keeping : Keeping host files served contents world) (events more : List (Event migrator))
    (none : ∀ event ∈ more, ¬ Touches host event.call place) : contents (more ++ events) place = contents events place := by
  induction more with
  | nil => rfl
  | cons event more ih =>
    rw [List.cons_append,keeping.keeps _ _ _ (none event List.mem_cons_self)]
    exact ih (fun other member => none other (List.mem_cons_of_mem event member))

-- The names that writeGenesisFile gives to what it makes of a file.
def madeNames (fileName : String) : List String :=
  [fileName ++ checksumSuffix,fileName ++ tarballSuffix,fileName ++ tarballSuffix ++ checksumSuffix]

-- Where the steps of a publication write.
theorem publication_places (host : Host) {fileName : String} (entries : ∀ name ∈ fileName :: madeNames fileName, Path.EntryName name) (filled : dir ≠ "") :
    locate host (Path.resolve host.cwd [dir,fileName]) = locate host dir ++ [fileName] ∧
      locate host (Path.resolve host.cwd [dir,fileName ++ ".SHA256"]) = locate host dir ++ [fileName ++ checksumSuffix] ∧
      locate host (dir ++ "/" ++ (Path.segments (Path.resolve host.cwd [dir,fileName])).getLastD "" ++ tarballSuffix) =
        locate host dir ++ [fileName ++ tarballSuffix] ∧
      locate host (Path.resolve host.cwd [dir,fileName] ++ ".tar.gz") = locate host dir ++ [fileName ++ tarballSuffix] ∧
      locate host (Path.resolve host.cwd [dir,fileName ++ ".tar.gz.SHA256"]) =
        locate host dir ++ [fileName ++ tarballSuffix ++ checksumSuffix] := by
  have entry := entries fileName List.mem_cons_self
  have noteEntry : Path.EntryName (fileName ++ checksumSuffix) := entries _ (by simp [madeNames])
  have tarballEntry : Path.EntryName (fileName ++ tarballSuffix) := entries _ (by simp [madeNames])
  have tarballNoteEntry : Path.EntryName (fileName ++ tarballSuffix ++ checksumSuffix) := entries _ (by simp [madeNames])
  have joined : fileName ++ ".tar.gz.SHA256" = fileName ++ tarballSuffix ++ checksumSuffix := by
    rw [String.append_assoc]
    rfl
  refine ⟨locate_resolve entry dir,locate_resolve noteEntry dir,?_,?_,?_⟩
  · rw [resolve_name entry,String.append_assoc]
    exact locate_entry tarballEntry filled
  · exact (congrArg (locate host) (resolve_more entry tarballEntry host.cwd dir)).trans (locate_resolve tarballEntry dir)
  · rw [joined]
    exact locate_resolve tarballNoteEntry dir

theorem publication_touches {fileName : String} (entries : ∀ name ∈ fileName :: madeNames fileName, Path.EntryName name) (filled : dir ≠ "")
    (member : event ∈ publication host dir fileName hash tarballHash) (touches : Touches host event.call place) :
    ∃ name ∈ madeNames fileName, place = locate host dir ++ [name] := by
  obtain ⟨_,note,tarball,_,tarballNote⟩ := publication_places host entries filled
  rcases List.mem_cons.mp member with rfl | member
  · exact touches.elim
  · rcases List.mem_cons.mp member with rfl | member
    · exact ⟨fileName ++ checksumSuffix,by simp [madeNames],Eq.trans touches note⟩
    · rcases List.mem_cons.mp member with rfl | member
      · exact ⟨fileName ++ tarballSuffix,by simp [madeNames],Eq.trans touches tarball⟩
      · rcases List.mem_cons.mp member with rfl | member
        · exact touches.elim
        · cases List.mem_singleton.mp member
          exact ⟨fileName ++ tarballSuffix ++ checksumSuffix,by simp [madeNames],Eq.trans touches tarballNote⟩

theorem elsewhere {dir : Location} {one two : String} (other : one ≠ two) : dir ++ [one] ≠ dir ++ [two] :=
  fun same => other (List.cons.inj (List.append_cancel_left same)).1

theorem firstWord_digest (file : File) : firstWord (files.read (files.text (files.digest file))) = files.digest file := by
  have whole : (files.digest file).toList.takeWhile (· ≠ ' ') = (files.digest file).toList := by
    apply List.takeWhile_eq_self_iff.mpr
    intro letter member
    exact decide_eq_true (fun blank => files.digest_word file (blank ▸ member))
  unfold firstWord
  rw [files.read_text,whole,String.ofList_toList]

-- A file that is published, and its tarball, have the digests that lie beside them.
theorem publication_verified (keeping : Keeping host files served contents world) {fileName : String}
    (entries : ∀ name ∈ fileName :: madeNames fileName, Path.EntryName name) (distinct : (fileName :: madeNames fileName).Nodup)
    (filled : dir ≠ "") (before : List (Event migrator))
    (answered : Answered world (before ++ publication host dir fileName hash tarballHash).reverse) :
    Verified files (contents (before ++ publication host dir fileName hash tarballHash).reverse) (locate host dir) fileName ∧
      Verified files (contents (before ++ publication host dir fileName hash tarballHash).reverse) (locate host dir)
        (fileName ++ tarballSuffix) := by
  obtain ⟨file,note,tarball,tarballSummed,tarballNote⟩ := publication_places host entries filled
  unfold publication at answered ⊢
  simp only [List.reverse_append,List.reverse_cons,List.reverse_nil,List.nil_append,List.cons_append] at answered ⊢
  obtain ⟨_,summedAgain,_,_,summed,_⟩ := answered
  obtain ⟨content,lies,same⟩ := keeping.sums _ _ _ summed.symm
  obtain ⟨packed,found,told⟩ := keeping.sums _ _ _ summedAgain.symm
  cases same
  cases told
  simp only [madeNames,List.nodup_cons,List.mem_cons,List.not_mem_nil,or_false,not_or,not_false_eq_true,and_true,List.nodup_nil] at distinct
  obtain ⟨⟨fileNote,fileTarball,fileTarballNote⟩,⟨noteTarball,noteTarballNote⟩,tarballApart⟩ := distinct
  have noteTouches {other : String} (apart : other ≠ fileName ++ checksumSuffix) :
      ¬ Touches host (.write (Path.resolve host.cwd [dir,fileName ++ ".SHA256"]) (files.digest content)) (locate host dir ++ [other]) :=
    fun touches => elsewhere apart (Eq.trans touches note)
  have tarballTouches {other : String} (apart : other ≠ fileName ++ tarballSuffix) :
      ¬ Touches host (.createTarball (Path.resolve host.cwd [dir,fileName]) dir) (locate host dir ++ [other]) :=
    fun touches => elsewhere apart (Eq.trans touches tarball)
  have lastTouches {other : String} (apart : other ≠ fileName ++ tarballSuffix ++ checksumSuffix) :
      ¬ Touches host (.write (Path.resolve host.cwd [dir,fileName ++ ".tar.gz.SHA256"]) (files.digest packed)) (locate host dir ++ [other]) :=
    fun touches => elsewhere apart (Eq.trans touches tarballNote)
  refine ⟨⟨content,_,?_,?_,firstWord_digest content⟩,packed,_,?_,?_,firstWord_digest packed⟩
  · rw [keeping.keeps _ _ _ (lastTouches fileTarballNote),keeping.keeps _ _ _ id,keeping.keeps _ _ _ (tarballTouches fileTarball),
      keeping.keeps _ _ _ (noteTouches fileNote),keeping.keeps _ _ _ id,← file]
    exact lies
  · rw [keeping.keeps _ _ _ (lastTouches noteTarballNote),keeping.keeps _ _ _ id,keeping.keeps _ _ _ (tarballTouches noteTarball),← note]
    exact keeping.writes _ _ _
  · rw [keeping.keeps _ _ _ (lastTouches tarballApart),keeping.keeps _ _ _ id,← tarballSummed]
    exact found
  · rw [← tarballNote]
    exact keeping.writes _ _ _

theorem verified_kept (keeping : Keeping host files served contents world) {name : String}
    (verified : Verified files (contents events) dir name) (more : List (Event migrator))
    (none : ∀ event ∈ more, ∀ other ∈ [name,name ++ checksumSuffix], ¬ Touches host event.call (dir ++ [other])) :
    Verified files (contents (more ++ events)) dir name := by
  obtain ⟨file,note,lies,noted,same⟩ := verified
  refine ⟨file,note,?_,?_,same⟩
  · rw [contents_kept keeping events more (fun event member => none event member name (by simp))]
    exact lies
  · rw [contents_kept keeping events more (fun event member => none event member (name ++ checksumSuffix) (by simp))]
    exact noted

-- The four files whose digests lie beside them.
def publishedNames : List String :=
  [fileNameGenesisBlockBlob,fileNameGenesisBlockBlob ++ tarballSuffix,fileNameGenesisBlockJson,fileNameGenesisBlockJson ++ tarballSuffix]

theorem both_verified (keeping : Keeping host files served contents world) (filled : dir ≠ "") (before : List (Event migrator))
    (answered : Answered world (before ++ publication host dir fileNameGenesisBlockBlob blobHash blobTarballHash ++
      publication host dir fileNameGenesisBlockJson jsonHash jsonTarballHash).reverse) :
    ∀ name ∈ publishedNames, Verified files (contents (before ++ publication host dir fileNameGenesisBlockBlob blobHash blobTarballHash ++
      publication host dir fileNameGenesisBlockJson jsonHash jsonTarballHash).reverse) (locate host dir) name := by
  have jsonEntries : ∀ name ∈ fileNameGenesisBlockJson :: madeNames fileNameGenesisBlockJson, Path.EntryName name := by decide +kernel
  have first : Answered world (before ++ publication host dir fileNameGenesisBlockBlob blobHash blobTarballHash).reverse := by
    rw [List.reverse_append] at answered
    exact answered_part _ answered
  obtain ⟨blob,blobTarball⟩ := publication_verified keeping (by decide +kernel) (by decide +kernel) filled before first
  obtain ⟨json,jsonTarball⟩ := publication_verified keeping jsonEntries (by decide +kernel) filled _ answered
  -- The second file and what is made of it have other names than the first.
  have apart : ∀ name ∈ [fileNameGenesisBlockBlob,fileNameGenesisBlockBlob ++ tarballSuffix], ∀ other ∈ [name,name ++ checksumSuffix],
      other ∉ madeNames fileNameGenesisBlockJson := by decide +kernel
  have kept {name : String} (member : name ∈ [fileNameGenesisBlockBlob,fileNameGenesisBlockBlob ++ tarballSuffix])
      (verified : Verified files (contents (before ++ publication host dir fileNameGenesisBlockBlob blobHash blobTarballHash).reverse)
        (locate host dir) name) :
      Verified files (contents (before ++ publication host dir fileNameGenesisBlockBlob blobHash blobTarballHash ++
        publication host dir fileNameGenesisBlockJson jsonHash jsonTarballHash).reverse) (locate host dir) name := by
    have later : (before ++ publication host dir fileNameGenesisBlockBlob blobHash blobTarballHash ++
        publication host dir fileNameGenesisBlockJson jsonHash jsonTarballHash).reverse =
        (publication host dir fileNameGenesisBlockJson jsonHash jsonTarballHash).reverse ++
          (before ++ publication host dir fileNameGenesisBlockBlob blobHash blobTarballHash).reverse := List.reverse_append
    rw [later]
    apply verified_kept keeping verified
    intro event inside other otherMember touches
    obtain ⟨made,madeMember,same⟩ := publication_touches jsonEntries filled (List.mem_reverse.mp inside) touches
    exact apart name member other otherMember ((List.cons.inj (List.append_cancel_left same)).1 ▸ madeMember)
  intro name member
  rcases List.mem_cons.mp member with rfl | member
  · exact kept (by simp) blob
  · rcases List.mem_cons.mp member with rfl | member
    · exact kept (by simp) blobTarball
    · rcases List.mem_cons.mp member with rfl | member
      · exact json
      · cases List.mem_singleton.mp member
        exact jsonTarball

theorem outputDirOf_filled (networkIdentifier : String) : outputDirOf host flags networkIdentifier ≠ "" := by
  unfold outputDirOf
  split
  · rename_i chosen
    unfold outputPathOf
    cases output : flags.output with
    | none => simp [given,output] at chosen
    | some path =>
      simp only [given,output,Option.any_some,decide_eq_true_eq] at chosen
      exact chosen
  · simp

-- The commands are written to a place of their own.
theorem winding_touches (winding : Winding host dir request) (touches : Touches host request place) :
    place = locate host dir ++ [fileNameCommandsToExec] := by
  cases winding with
  | access => exact touches.elim
  | readJSON => exact touches.elim
  | write content => exact Eq.trans touches (locate_resolve (by decide +kernel) dir)

theorem wound_verified (keeping : Keeping host files served contents world) {wound : List (Event migrator)}
    (winding : ∀ event ∈ wound, Winding host dir event.call)
    (verified : ∀ name ∈ publishedNames, Verified files (contents events) (locate host dir) name) :
    ∀ name ∈ publishedNames, Verified files (contents (wound.reverse ++ events)) (locate host dir) name := by
  have apart : ∀ name ∈ publishedNames, ∀ other ∈ [name,name ++ checksumSuffix], other ≠ fileNameCommandsToExec := by decide +kernel
  intro name member
  apply verified_kept keeping (verified name member)
  intro event inside other otherMember touches
  have here := winding_touches (winding event (List.mem_reverse.mp inside)) touches
  exact elsewhere (apart name member other otherMember) here

end Published

namespace Sample

def publishing : World migrator := keeper host digests snapshots ("packed " ++ ·) genesisFiles served

theorem publishing_returns : ∃ t, LiskMigrator.run host packages 4 publishing unevenFlags ⟨[],.fresh⟩ = .ok () t := by
  have returned : (outcome (LiskMigrator.run host packages 4 publishing unevenFlags ⟨[],.fresh⟩)).isOk = true := by decide +kernel
  cases ran : LiskMigrator.run host packages 4 publishing unevenFlags ⟨[],.fresh⟩ with
  | ok _ t => exact ⟨t,rfl⟩
  | error _ _ =>
    rw [ran] at returned
    cases returned

end Sample

end LiskMigrator
