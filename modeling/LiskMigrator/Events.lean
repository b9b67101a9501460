import LiskMigrator.Library.Runs
import LiskMigrator.Requests

namespace LiskMigrator
open Text

structure ForgingStatus where
  address : String
  lskAddress : Option String
  forging : Bool
  height : Option Int
  maxHeightPrevoted : Option Int
  maxHeightPreviouslyForged : Option Int
deriving DecidableEq

-- Where JSON.stringify finds a property undefined, it writes none.
def ForgingStatus.json (status : ForgingStatus) : Json :=
  let number (name : String) (value : Option Int) := value.toList.map (fun value => (name,Json.number value))
  .object ([("address",.string status.address),("forging",.boolean status.forging)] ++ number "height" status.height ++
    number "maxHeightPrevoted" status.maxHeightPrevoted ++
    number "maxHeightPreviouslyForged" status.maxHeightPreviouslyForged ++
    status.lskAddress.toList.map (fun lskAddress => ("lskAddress",.string lskAddress)))

-- One call of the listener, by what it waits for.
inductive Handler where
  | asking
  | writing (finalForgingStatuses : List ForgingStatus)
  | resolved
  | rejected
deriving DecidableEq

-- The calls in the order of their blocks, the files that were written, the last
-- one first, and what was shown because it could not be written.
structure ForgingCapture where
  handlers : List Handler
  files : List (String × List ForgingStatus)
  shown : List (List ForgingStatus)
deriving DecidableEq

inductive CaptureEvent where
  | newBlock (encodedBlock : String)
  | replied (handler : Nat) (forgingStatuses : Except Fault (List ForgingStatus))
  | written (handler : Nat) (reply : Except Fault Unit)

namespace ForgingCapture

def start : ForgingCapture := ⟨[],[],[]⟩

def entered (s : ForgingCapture) (handler : Handler) : ForgingCapture := { s with handlers := s.handlers ++ [handler] }

def goes (s : ForgingCapture) (handler : Nat) (next : Handler) : ForgingCapture :=
  { s with handlers := s.handlers.set handler next }

-- What the file of a path holds.
def fileAt (s : ForgingCapture) (path : String) : Option (List ForgingStatus) := s.files.lookup path

end ForgingCapture

section Listener
variable (packages : Packages)

def finalForgingStatus (entry : ForgingStatus) : ForgingStatus :=
  { entry with lskAddress := some (packages.getLisk32AddressFromAddress (fromHex entry.address)) }

-- `decode` is the client's block.decode, of whose result the header is used. The
-- calls run side by side, so the node may answer them, and the disk finish their
-- writes, in any order.
def listen (host : Host) (decode : Bytes → Except Failure BlockHeader) (snapshotHeight : Int) (outputDir : String) (s : ForgingCapture) :
    CaptureEvent → Option ForgingCapture
  | .newBlock encodedBlock =>
    match decode (fromHex encodedBlock) with
    | .error _ => some (s.entered .rejected)
    | .ok header => some (s.entered (if header.height = snapshotHeight then .asking else .resolved))
  | .replied handler reply =>
    match s.handlers[handler]?,reply with
    | some .asking,.ok forgingStatuses =>
      let finalForgingStatuses := forgingStatuses.map (finalForgingStatus packages)
      some (s.goes handler (if finalForgingStatuses.length ≠ 0 then .writing finalForgingStatuses else .resolved))
    | some .asking,.error _ => some (s.goes handler .rejected)
    | _,_ => none
  | .written handler reply =>
    match s.handlers[handler]?,reply with
    | some (.writing finalForgingStatuses),.ok _ =>
      let forgingStatusJsonFilepath := Path.resolve host.cwd [outputDir,fileNameForgingStatus]
      some { s.goes handler .resolved with files := (forgingStatusJsonFilepath,finalForgingStatuses) :: s.files }
    | some (.writing finalForgingStatuses),.error _ =>
      some { s.goes handler .resolved with shown := finalForgingStatuses :: s.shown }
    | _,_ => none

-- Nobody awaits a call, so one that is rejected ends the process: nothing follows.
def captureForgingStatusAtSnapshotHeight (host : Host) (decode : Bytes → Except Failure BlockHeader) (snapshotHeight : Int)
    (outputDir : String) (s : ForgingCapture) (event : CaptureEvent) : Option ForgingCapture :=
  if .rejected ∈ s.handlers then none else listen packages host decode snapshotHeight outputDir s event

end Listener
end LiskMigrator
