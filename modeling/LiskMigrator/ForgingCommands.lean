import LiskMigrator.ForgingCapture
import LiskMigrator.Library.Fields
import LiskMigrator.Provenance

namespace LiskMigrator
open Fields Interaction Outcome Runs Text

section Lines
variable {chainID : Nat} {snapshotHeight : Int} {keysFilepath : String}

-- The text of a height of a forging status, as it stands in a command.
def heightText (snapshotHeight : Int) (status : Json) (property : String) : String :=
  jsonText (nullish (status.get property) (.number snapshotHeight))

theorem commands_size (status : Json) : (validatorCommands chainID snapshotHeight keysFilepath status).length = 12 := rfl

def heightProperties : List String := ["height","maxHeightPreviouslyForged","maxHeightPrevoted"]

theorem commands_inj {one two : Json} (plainOne : ∀ property ∈ heightProperties, ',' ∉ (heightText snapshotHeight one property).toList)
    (plainTwo : ∀ property ∈ heightProperties, ',' ∉ (heightText snapshotHeight two property).toList) :
    validatorCommands chainID snapshotHeight keysFilepath one = validatorCommands chainID snapshotHeight keysFilepath two ↔
      templateText (one.get "lskAddress") = templateText (two.get "lskAddress") ∧
      ∀ property ∈ heightProperties, heightText snapshotHeight one property = heightText snapshotHeight two property := by
  constructor
  · intro same
    have addresses : "lisk-core generator:enable " ++ templateText (one.get "lskAddress") ++ " --use-status-value" =
        "lisk-core generator:enable " ++ templateText (two.get "lskAddress") ++ " --use-status-value" :=
      Option.some.inj (congrArg (·[7]?) same)
    have address := (String.append_right_inj _).mp ((String.append_left_inj _).mp addresses)
    have statuses := Option.some.inj (congrArg (·[6]?) same)
    simp only [address,String.append_assoc] at statuses
    have texts := (String.append_right_inj _).mp ((String.append_right_inj _).mp ((String.append_right_inj _).mp statuses))
    have first : "height" ∈ heightProperties := by simp [heightProperties]
    have second : "maxHeightPreviouslyForged" ∈ heightProperties := by simp [heightProperties]
    obtain ⟨height,afterHeight⟩ := text_inj (by rfl) (plainOne _ first) (plainTwo _ first) texts
    obtain ⟨generated,afterGenerated⟩ := text_inj (by rfl) (plainOne _ second) (plainTwo _ second) afterHeight
    have prevoted := (String.append_left_inj _).mp afterGenerated
    refine ⟨address,?_⟩
    intro property member
    simp only [heightProperties,List.mem_cons,List.not_mem_nil,or_false] at member
    rcases member with rfl | rfl | rfl
    · exact height
    · exact generated
    · exact prevoted
  · intro held
    obtain ⟨address,heights⟩ := held
    have height := heights "height" (by simp [heightProperties])
    have generated := heights "maxHeightPreviouslyForged" (by simp [heightProperties])
    have prevoted := heights "maxHeightPrevoted" (by simp [heightProperties])
    unfold heightText at height generated prevoted
    unfold validatorCommands
    simp only [address,height,generated,prevoted]

theorem integer_text (n : Int) : jsonText (.number n) = toString n := by
  simp [jsonText,toString]

theorem integer_plain (n : Int) : ',' ∉ (jsonText (.number n)).toList := by
  rw [integer_text]
  intro member
  rcases integer_letter member with digit | sign
  · cases digit
  · cases sign

end Lines

section Statuses
variable (packages : Packages) (snapshotHeight : Int)

-- What the commands of a validator are made of: its new address and the heights
-- to go on from.
structure Registration where
  lskAddress : String
  height : Int
  maxHeightGenerated : Int
  maxHeightPrevoted : Int
deriving DecidableEq

attribute [ext] Registration

def registrationOf (entry : ForgingStatus) : Registration :=
  ⟨packages.getLisk32AddressFromAddress (fromHex entry.address),entry.height.getD snapshotHeight,
    entry.maxHeightPreviouslyForged.getD snapshotHeight,entry.maxHeightPrevoted.getD snapshotHeight⟩

variable {packages snapshotHeight} {entry : ForgingStatus}

theorem final_address : (finalForgingStatus packages entry).json.get "lskAddress" =
    some (.string (packages.getLisk32AddressFromAddress (fromHex entry.address))) := by
  obtain ⟨address,lskAddress,forging,height,prevoted,forged⟩ := entry
  cases height <;> cases prevoted <;> cases forged <;> rfl

theorem final_height : nullish ((finalForgingStatus packages entry).json.get "height") (.number snapshotHeight) =
    .number (entry.height.getD snapshotHeight : Int) := by
  obtain ⟨address,lskAddress,forging,height,prevoted,forged⟩ := entry
  cases height <;> cases prevoted <;> cases forged <;> rfl

theorem final_generated : nullish ((finalForgingStatus packages entry).json.get "maxHeightPreviouslyForged") (.number snapshotHeight) =
    .number (entry.maxHeightPreviouslyForged.getD snapshotHeight : Int) := by
  obtain ⟨address,lskAddress,forging,height,prevoted,forged⟩ := entry
  cases height <;> cases prevoted <;> cases forged <;> rfl

theorem final_prevoted : nullish ((finalForgingStatus packages entry).json.get "maxHeightPrevoted") (.number snapshotHeight) =
    .number (entry.maxHeightPrevoted.getD snapshotHeight : Int) := by
  obtain ⟨address,lskAddress,forging,height,prevoted,forged⟩ := entry
  cases height <;> cases prevoted <;> cases forged <;> rfl

-- The height that a property stands for.
def Registration.heightOf (registration : Registration) (property : String) : Int :=
  if property = "height" then registration.height
  else if property = "maxHeightPreviouslyForged" then registration.maxHeightGenerated
  else registration.maxHeightPrevoted

theorem final_heights (entry : ForgingStatus) (member : property ∈ heightProperties) :
    heightText snapshotHeight (finalForgingStatus packages entry).json property =
      toString ((registrationOf packages snapshotHeight entry).heightOf property) := by
  simp only [heightProperties,List.mem_cons,List.not_mem_nil,or_false] at member
  unfold heightText
  rcases member with rfl | rfl | rfl
  · rw [final_height,integer_text]
    rfl
  · rw [final_generated,integer_text]
    rfl
  · rw [final_prevoted,integer_text]
    rfl

theorem final_plain (entry : ForgingStatus) (member : property ∈ heightProperties) :
    ',' ∉ (heightText snapshotHeight (finalForgingStatus packages entry).json property).toList := by
  rw [final_heights entry member,← integer_text]
  exact integer_plain _

theorem registration_iff (one two : ForgingStatus) :
    validatorCommands chainID snapshotHeight keysFilepath (finalForgingStatus packages one).json =
        validatorCommands chainID snapshotHeight keysFilepath (finalForgingStatus packages two).json ↔
      registrationOf packages snapshotHeight one = registrationOf packages snapshotHeight two := by
  rw [commands_inj (fun _ member => final_plain one member) (fun _ member => final_plain two member),final_address,final_address]
  constructor
  · intro held
    obtain ⟨address,heights⟩ := held
    have each (property : String) (member : property ∈ heightProperties) :
        (registrationOf packages snapshotHeight one).heightOf property = (registrationOf packages snapshotHeight two).heightOf property := by
      have texts := heights property member
      rw [final_heights one member,final_heights two member] at texts
      exact integer_inj.mp texts
    have height := each "height" (by simp [heightProperties])
    have generated := each "maxHeightPreviouslyForged" (by simp [heightProperties])
    have prevoted := each "maxHeightPrevoted" (by simp [heightProperties])
    exact Registration.ext address height generated prevoted
  · intro same
    refine ⟨congrArg Registration.lskAddress same,?_⟩
    intro property member
    rw [final_heights one member,final_heights two member,same]

end Statuses

section Results
variable {packages : Packages} {host : Host} {decode : Bytes → Except Failure BlockHeader} {snapshotHeight : Int} {outputDir : String}
  {world : World migrator} {events : List CaptureEvent} {s : ForgingCapture}

-- The file is as the listener has left it.
structure ShowsFile (host : Host) (outputDir : String) (s : ForgingCapture) (world : World migrator) : Prop where
  access : ∀ asked, world asked (.access (forgingStatusPath host outputDir)) = (s.fileAt (forgingStatusPath host outputDir)).isSome
  reads : ∀ asked statuses, s.fileAt (forgingStatusPath host outputDir) = some statuses →
    world asked (.readJSON (forgingStatusPath host outputDir)) = .ok (.array (statuses.map ForgingStatus.json))

theorem sections_statuses (host : Host) (chainID : Nat) (snapshotHeight : Int) (outputDir : String) (statuses : List ForgingStatus) (session : Session migrator Store) :
    validatorSections host chainID snapshotHeight outputDir (statuses.map ForgingStatus.json) session =
      .ok (statuses.flatMap (fun status =>
        validatorCommands chainID snapshotHeight (Path.resolve host.cwd [outputDir,fileNameKeys]) status.json)) session := by
  have clean : .null ∉ statuses.map ForgingStatus.json := by
    intro member
    obtain ⟨status,_,null⟩ := List.mem_map.mp member
    cases null
  exact (validatorSections_ok host).mpr ⟨clean,rfl,(List.flatMap_map _ _ _).symm⟩

theorem commands_absent (shows : ShowsFile host outputDir s world) (absent : s.fileAt (forgingStatusPath host outputDir) = none)
    (network : Option NetworkConfigLocal) (session : Session migrator Store) :
    getCommandsToExecPostMigration host world network snapshotHeight outputDir session =
      .ok [] ⟨⟨.access (forgingStatusPath host outputDir),false⟩ :: session.events,session.store⟩ := by
  have looked := ask_ran (shows.access session.events)
  rw [absent] at looked
  exact step_next _ looked

theorem commands_present (shows : ShowsFile host outputDir s world) (here : s.fileAt (forgingStatusPath host outputDir) = some statuses)
    (network : Option NetworkConfigLocal) (session : Session migrator Store) :
    ∃ after, getCommandsToExecPostMigration host world network snapshotHeight outputDir session =
      match network with
      | none => .error (.error (readUndefined "tokenID") none) after
      | some network => .ok (statuses.flatMap (fun status =>
          validatorCommands (chainIDOf network) snapshotHeight (Path.resolve host.cwd [outputDir,fileNameKeys]) status.json)) after := by
  have looked := ask_ran (shows.access session.events)
  rw [here] at looked
  have opened : settled (ask world (.readJSON (forgingStatusPath host outputDir)))
      ⟨⟨.access (forgingStatusPath host outputDir),true⟩ :: session.events,session.store⟩ =
      .ok (.array (statuses.map ForgingStatus.json)) _ := settled_ran (ask_ran (shows.reads _ _ here))
  cases network with
  | none => exact ⟨_,(step_next _ looked).trans ((step_next _ opened).trans rfl)⟩
  | some network =>
    have sections := sections_statuses host (chainIDOf network) snapshotHeight outputDir statuses
    exact ⟨_,(step_next _ looked).trans ((step_next _ opened).trans (sections _))⟩

end Results

namespace Sample

-- A run in which everything succeeds, where a report was saved before.
def reporting : World migrator := fun events request =>
  match request with
  | .access path => path = "/out/forgingStatus.json"
  | .readJSON _ => .ok (.array [finalForger.json])
  | request => served events request

theorem reporting_shows : ShowsFile host "/out" forgingMiddle reporting where
  access _ := by rfl
  reads _ statuses here := by
    cases here
    rfl

def reportingContext : Context := { offlineContext with flags := unevenFlags }

theorem reporting_entered : enterRun host reporting unevenFlags ⟨[],.fresh⟩ = .ok reportingContext ⟨[⟨.ensureDir "/out",.ok ()⟩],.fresh⟩ := by
  rfl

theorem reporting_returns : succeeds (LiskMigrator.run host packages 4 reporting unevenFlags ⟨[],.fresh⟩) = true := by decide +kernel

end Sample

end LiskMigrator
