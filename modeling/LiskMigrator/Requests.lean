import LiskMigrator.CreateAsset
import LiskMigrator.Library.Interaction
import LiskMigrator.Utils.Config
import LiskMigrator.Utils.Exception
import LiskMigrator.Utils.Path

namespace LiskMigrator
open Interaction Outcome

structure NodeInfo where
  version : String
  networkIdentifier : String
  backupHeight : Int

inductive ShellCommand where
  | installLiskCore
  | installPM2
  | whichLiskCore
  | liskCoreStartHelp
  | createGenesisBlock (command : String)
  | startPM2 (pm2FilePath : String)
deriving DecidableEq

def ShellCommand.text : ShellCommand → String
  | .installLiskCore => "npm i -g lisk-core@^4.0.1"
  | .installPM2 => "npm i -g pm2"
  | .whichLiskCore => "which lisk-core"
  | .liskCoreStartHelp => "lisk-core start --help | grep -- '^\\s\\+-' | cut -d ' ' -f 3,4"
  | .createGenesisBlock command => command
  | .startPM2 pm2FilePath => "pm2 start " ++ pm2FilePath

-- What the user is asked to confirm.
inductive Question where
  | stopLiskCoreV3
  | liskCoreV3StillRunning
  | configuration (config : Option Json)
  | customizeStartCommand (defaultStartCommand : String)
  | pm2Configuration (script : String)

-- What the program asks of the node, the disk, the shell and the user.
inductive Request where
  | createIPCClient (liskCorePath : String)
  | getNodeInfo (liskCorePath : String)
  | subscribeNewBlock (liskCorePath : String) (snapshotHeight : Int) (outputDir : String)
  | observeChainHeight (liskCorePath : String) (height : Int)
  | download (url filePath : String)
  | extractTarBall (srcFilePath destDirPath : String)
  | openDatabase (path : String)
  | ensureDir (path : String)
  | mkdir (path : String)
  | access (path : String)
  | getFiles (path : String)
  | read (path : String)
  | readJSON (path : String)
  | readDefaultConfig (path : String)
  | write (path content : String)
  | writeJSON (path : String) (value : Json)
  | writeGenesisAssets (path : String) (assets : List GenesisAssetEntry)
  | createBackup (path : String) (config : Json)
  | writeConfig (outputDir : String) (config : Json)
  | createChecksum (filePath : String)
  | createTarball (filePath outputDir : String)
  | copyFile (src dest : String)
  | rename (src dest : String)
  | copyDir (src dest : String)
  | validate (config : Json)
  | exec (command : ShellCommand)
  | confirm (question : Question)
  | prompt
  | listen (port : Json)

@[reducible] def Request.Reply : Request → Type
  | .getNodeInfo _ => Except Fault NodeInfo
  | .openDatabase _ => Except Fault Database
  | .access _ => Bool
  | .getFiles _ => Except Fault (List String)
  | .read _ => Except Fault String
  | .readJSON _ => Except Fault Json
  | .readDefaultConfig _ => Except Fault ApplicationConfig
  | .createChecksum _ => Except Fault String
  | .validate _ => Bool
  | .exec _ => Except ExecFault String
  | .confirm _ => Except Fault Bool
  | .prompt => Except Fault String
  | _ => Except Fault Unit

abbrev migrator : Signature := ⟨Request,Request.Reply⟩

-- The variables that live outside the functions. The process starts with all
-- of them undefined, and with no client in the cache.
structure Store where
  clientCache : List String
  tokenIDLsk : Option String
  prevSnapshotBlockHeight : Option Nat
  genesisBlockCreateCommand : Option String
  liskCoreStartCommand : Option String
  configCoreV4 : Option Json
  process : Process

def Store.fresh : Store := ⟨[],none,none,none,none,none,.fresh⟩

abbrev Migration (α : Type) := Program migrator Thrown Store α

-- An awaited promise: the program goes on with its value, or throws.
def settled (reply : Migration (Except Fault α)) : Migration α := do
  match ← reply with
  | .ok value => pure value
  | .error fault => throw fault.thrown

def executed (reply : Migration (Except ExecFault String)) : Migration String := do
  match ← reply with
  | .ok stdout => pure stdout
  | .error fault => throw fault.thrown

-- throw new Error(message)
def raise (message : String) : Migration α := throw (.error message none)

-- this.error(message)
def cliError (message : String) : Migration α := throw (.cliError message)

def Failure.ends : Failure → Thrown
  | .thrown message => .error message none
  | .unhandled message => .unhandled message
  | .unfinished => .error "" none

-- A step of the asset creation, on the variables that belong to it.
def ofProcess (step : Step Failure Process α) : Migration α := fun s =>
  match step s.store.process with
  | .ok a process => .ok a ⟨s.events,{ s.store with process }⟩
  | .error failure process => .error failure.ends ⟨s.events,{ s.store with process }⟩

-- if (condition) { throw new Error(message) }, and the same with this.error.
def raiseIf (condition : Prop) [Decidable condition] (message : String) : Migration Unit :=
  if condition then raise message else pure ()

def cliErrorIf (condition : Prop) [Decidable condition] (message : String) : Migration Unit :=
  if condition then cliError message else pure ()

-- What node says of the property of a value that is undefined.
def readUndefined (property : String) : String := "Cannot read properties of undefined (reading '" ++ property ++ "')"

def defined (value : Option α) (property : String) : Migration α :=
  match value with
  | some value => pure value
  | none => raise (readUndefined property)

def execAsync (world : World migrator) (command : ShellCommand) : Migration String := executed (ask world (.exec command))

section Rules
variable {world : World migrator} {s : Session migrator Store} {thrown : Thrown → Session migrator Store → Prop}

theorem ends_settled {x : Migration (Except Fault α)} {normal : α → Session migrator Store → Prop}
    (first : Ends x s (fun reply t => match reply with
      | .ok value => normal value t
      | .error fault => thrown fault.thrown t) thrown) : Ends (settled x) s normal thrown := by
  apply ends_bind first
  intro reply t holds
  cases reply with
  | ok value => exact ends_pure holds
  | error fault => exact ends_throw holds

theorem ends_exec {command : ShellCommand} {normal : String → Session migrator Store → Prop}
    (ok : ∀ stdout, .ok stdout = world s.events (.exec command) → normal stdout ⟨⟨.exec command,.ok stdout⟩ :: s.events,s.store⟩)
    (error : ∀ fault, .error fault = world s.events (.exec command) →
      thrown fault.thrown ⟨⟨.exec command,.error fault⟩ :: s.events,s.store⟩) :
    Ends (execAsync world command) s normal thrown := by
  have answered : Ends (ask world (.exec command)) s
      (fun (reply : Except ExecFault String) t => reply = world s.events (.exec command) ∧
        t = ⟨⟨.exec command,reply⟩ :: s.events,s.store⟩) thrown := ends_ask world (fun _ same => ⟨same,rfl⟩)
  apply ends_bind answered
  intro reply t ended
  obtain ⟨replied,rfl⟩ := ended
  cases reply with
  | ok stdout => exact ends_pure (ok stdout replied)
  | error fault => exact ends_throw (error fault replied)

theorem ask_ran {call : Request} {answered : call.Reply} (same : world s.events call = answered) :
    ask world call s = (.ok answered ⟨⟨call,answered⟩ :: s.events,s.store⟩ : EStateM.Result Thrown _ _) := by
  subst same
  rfl

theorem settled_ran {x : Migration (Except Fault α)} (ran : x s = .ok (.ok value) t) : settled x s = .ok value t := step_next _ ran

theorem settled_answer {x : Migration (Except Fault α)} (ran : settled x s = .ok value t) : x s = .ok (.ok value) t := by
  unfold settled at ran
  obtain ⟨reply,middle,asked,rest⟩ := step_ok.mp ran
  cases reply with
  | ok other =>
    cases rest
    exact asked
  | error _ => cases rest

end Rules

section Sustained
variable {holds : Session migrator Store → Prop}

theorem sustains_settled {x : Migration (Except Fault α)} (sustains : Sustains holds x) : Sustains holds (settled x) := by
  apply sustains_bind sustains
  intro reply
  cases reply with
  | ok value => exact sustains_pure value
  | error fault => exact sustains_throw fault.thrown

theorem sustains_executed {x : Migration (Except ExecFault String)} (sustains : Sustains holds x) : Sustains holds (executed x) := by
  apply sustains_bind sustains
  intro reply
  cases reply with
  | ok stdout => exact sustains_pure stdout
  | error fault => exact sustains_throw fault.thrown

theorem sustains_raiseIf (condition : Prop) [Decidable condition] (message : String) : Sustains holds (raiseIf condition message) :=
  sustains_ite (sustains_throw _) (sustains_pure ())

theorem sustains_cliErrorIf (condition : Prop) [Decidable condition] (message : String) : Sustains holds (cliErrorIf condition message) :=
  sustains_ite (sustains_throw _) (sustains_pure ())

theorem sustains_defined (value : Option α) (property : String) : Sustains holds (defined value property) := by
  cases value with
  | none => exact sustains_throw _
  | some value => exact sustains_pure value

end Sustained

end LiskMigrator
