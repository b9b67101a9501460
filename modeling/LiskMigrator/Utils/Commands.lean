import LiskMigrator.Requests
import LiskMigrator.Utils.Config

namespace LiskMigrator
open Interaction Outcome Text

-- `${value}`, of a property that may be undefined, and `value ?? fallback`.
def templateText : Option Json → String
  | none => "undefined"
  | some value => jsonText value

def nullish : Option Json → Json → Json
  | none,fallback => fallback
  | some .null,fallback => fallback
  | some value,_ => value

-- for (const element of value)
def iterate : Json → Option (List Json)
  | .array elements => some elements
  | .string text => some (text.toList.map (fun c => .string (String.singleton c)))
  | _ => none

def ruler : String := "-----------------------------------------------------"

-- parseInt(networkConstant.tokenID.substring(0,2),16)
def chainIDOf (networkConstant : NetworkConfigLocal) : Nat :=
  ((fromHex (String.ofList (networkConstant.tokenID.toList.take 2))).headD 0).toNat

def validatorCommands (chainID : Nat) (snapshotHeight : Int) (keysFilepath : String) (forgingStatus : Json) : List String :=
  let lskAddress := templateText (forgingStatus.get "lskAddress")
  let height (property : String) := jsonText (nullish (forgingStatus.get property) (.number snapshotHeight))
  ["\n",
    "## Generate/Register the BLS keys for validator " ++ lskAddress ++ " - Please modify the command if necessary",
    "\n",
    "lisk-core keys:create --chainid " ++ decimal chainID ++ " --output " ++ keysFilepath ++ " --add-legacy",
    "lisk-core keys:import --file-path " ++ keysFilepath,
    "lisk-core endpoint:invoke random_setHashOnion '\x7b \"address\":\"" ++ lskAddress ++ "\"\x7d'",
    "lisk-core endpoint:invoke generator_setStatus '\x7b \"address\":\"" ++ lskAddress ++ "\", \"height\": " ++ height "height" ++
      ", \"maxHeightGenerated\":  " ++ height "maxHeightPreviouslyForged" ++ ", \"maxHeightPrevoted\":  " ++
      height "maxHeightPrevoted" ++ " \x7d' --pretty",
    "lisk-core generator:enable " ++ lskAddress ++ " --use-status-value",
    "lisk-core transaction:create legacy registerKeys 400000 --key-derivation-path=legacy --send",
    "\n",ruler,"\n"]

section Files
variable (host : Host) (world : World migrator)

-- Reading a property of null is an error, of any other value it is not.
def validatorSection (chainID : Nat) (snapshotHeight : Int) (outputDir : String) (forgingStatus : Json) : Migration (List String) :=
  match forgingStatus with
  | .null => raise "Cannot read properties of null (reading 'lskAddress')"
  | _ => pure (validatorCommands chainID snapshotHeight (Path.resolve host.cwd [outputDir,fileNameKeys]) forgingStatus)

def validatorSections (chainID : Nat) (snapshotHeight : Int) (outputDir : String) : List Json → Migration (List String)
  | [] => pure []
  | forgingStatus :: rest => do
    let commands ← validatorSection host chainID snapshotHeight outputDir forgingStatus
    let more ← validatorSections chainID snapshotHeight outputDir rest
    return commands ++ more

-- A null among the statuses is refused, and nothing else is.
theorem validatorSections_ok {statuses : List Json} {s t : Session migrator Store} :
    validatorSections host chainID snapshotHeight outputDir statuses s = .ok commands t ↔ .null ∉ statuses ∧ t = s ∧
      commands = statuses.flatMap (validatorCommands chainID snapshotHeight (Path.resolve host.cwd [outputDir,fileNameKeys])) := by
  induction statuses generalizing commands t with
  | nil =>
    constructor
    · intro ran
      cases ran
      exact ⟨List.not_mem_nil,rfl,rfl⟩
    · intro given
      obtain ⟨_,rfl,rfl⟩ := given
      rfl
  | cons status rest ih =>
    by_cases null : status = .null
    · subst null
      apply iff_of_false
      · intro ran
        cases ran
      · exact fun given => given.1 List.mem_cons_self
    · have first : validatorSection host chainID snapshotHeight outputDir status s =
          .ok (validatorCommands chainID snapshotHeight (Path.resolve host.cwd [outputDir,fileNameKeys]) status) s := by
        cases status with
        | null => exact absurd rfl null
        | _ => rfl
      have clean : .null ∉ status :: rest ↔ .null ∉ rest := by simp [Ne.symm null]
      rw [validatorSections,step_next _ first,step_ok,clean]
      constructor
      · intro ran
        obtain ⟨more,_,listed,ended⟩ := ran
        obtain ⟨clean,rfl,rfl⟩ := ih.mp listed
        cases ended
        exact ⟨clean,rfl,rfl⟩
      · intro given
        obtain ⟨clean,rfl,rfl⟩ := given
        exact ⟨_,_,ih.mpr ⟨clean,rfl,rfl⟩,rfl⟩

def getCommandsToExecPostMigration (networkConstant : Option NetworkConfigLocal) (snapshotHeight : Int) (outputDir : String) :
    Migration (List String) := do
  let forgingStatusJsonFilepath := Path.resolve host.cwd [outputDir,fileNameForgingStatus]
  if ← ask world (.access forgingStatusJsonFilepath) then
    let forgingStatusJson ← settled (ask world (.readJSON forgingStatusJsonFilepath))
    let networkConstant ← defined networkConstant "tokenID"
    match iterate forgingStatusJson with
    | none => raise "forgingStatusJson is not iterable"
    | some forgingStatuses => validatorSections host (chainIDOf networkConstant) snapshotHeight outputDir forgingStatuses
  else return []

-- An undefined line is joined as an empty one.
def commandsText (preCompletion : List (Option String)) (postMigration : List String) : String :=
  "\n".intercalate
    (["## Please execute the following commands to finish the migration successfully:",
      "------------------------------------------------------------------------------","\n"] ++
      preCompletion.map (·.getD "") ++ postMigration)

def writeCommandsToExec (networkConstant : Option NetworkConfigLocal) (snapshotHeight : Int) (outputDir : String)
    (preCompletionCommands : List (Option String)) : Migration Unit := do
  let commandsToExecPostMigration ← getCommandsToExecPostMigration host world networkConstant snapshotHeight outputDir
  if commandsToExecPostMigration.length ≠ 0 ∨ preCompletionCommands.length ≠ 0 then
    settled (ask world (.write (Path.resolve host.cwd [outputDir,fileNameCommandsToExec])
      (commandsText preCompletionCommands commandsToExecPostMigration)))

end Files
end LiskMigrator
