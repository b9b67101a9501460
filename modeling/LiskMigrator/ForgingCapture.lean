import LiskMigrator.Events
import LiskMigrator.Run
import LiskMigrator.Tables

namespace LiskMigrator
open Runs Text

namespace Handler

def asks : Handler → Bool
  | .asking => true
  | _ => false

def writes : Handler → Bool
  | .writing _ => true
  | _ => false

end Handler

namespace CaptureEvent

def block : CaptureEvent → Option String
  | .newBlock encodedBlock => some encodedBlock
  | _ => none

def isReply : CaptureEvent → Bool
  | .replied _ _ => true
  | _ => false

-- A reply with something in it.
def isReport : CaptureEvent → Bool
  | .replied _ (.ok forgingStatuses) => !forgingStatuses.isEmpty
  | _ => false

def isSaved : CaptureEvent → Bool
  | .written _ (.ok _) => true
  | _ => false

end CaptureEvent

def blocksOf (events : List CaptureEvent) : List String := events.filterMap CaptureEvent.block

section Listening
variable (packages : Packages) (host : Host) (decode : Bytes → Except Failure BlockHeader) (snapshotHeight : Int) (outputDir : String)

def isSnapshotBlock (encodedBlock : String) : Bool :=
  match decode (fromHex encodedBlock) with
  | .error _ => false
  | .ok header => header.height = snapshotHeight

def forgingStatusPath : String := Path.resolve host.cwd [outputDir,fileNameForgingStatus]

-- The call number `handler` was made for a block of the height, and the node has
-- told it of these validators.
def Reported (events : List CaptureEvent) (handler : Nat) (statuses : List ForgingStatus) : Prop :=
  ∃ encodedBlock forgingStatuses, (blocksOf events)[handler]? = some encodedBlock ∧ isSnapshotBlock decode snapshotHeight encodedBlock = true ∧
    .replied handler (.ok forgingStatuses) ∈ events ∧ forgingStatuses ≠ [] ∧ statuses = forgingStatuses.map (finalForgingStatus packages)

-- The events one by one, as rules.
inductive CaptureStep (s : ForgingCapture) : CaptureEvent → ForgingCapture → Prop where
  | marked (is : isSnapshotBlock decode snapshotHeight encodedBlock = true) : CaptureStep s (.newBlock encodedBlock) (s.entered .asking)
  | unmarked (other : isSnapshotBlock decode snapshotHeight encodedBlock = false) (asks : handler.asks = false) (writes : handler.writes = false) :
      CaptureStep s (.newBlock encodedBlock) (s.entered handler)
  | reported (asking : s.handlers[i]? = some .asking) (filled : forgingStatuses ≠ []) :
      CaptureStep s (.replied i (.ok forgingStatuses)) (s.goes i (.writing (forgingStatuses.map (finalForgingStatus packages))))
  | unreported (asking : s.handlers[i]? = some .asking) (none : (CaptureEvent.replied i reply).isReport = false)
      (asks : handler.asks = false) (writes : handler.writes = false) : CaptureStep s (.replied i reply) (s.goes i handler)
  | saved (writing : s.handlers[i]? = some (.writing statuses)) :
      CaptureStep s (.written i (.ok ())) { s.goes i .resolved with files := (forgingStatusPath host outputDir,statuses) :: s.files }
  | unsaved (writing : s.handlers[i]? = some (.writing statuses)) :
      CaptureStep s (.written i (.error fault)) { s.goes i .resolved with shown := statuses :: s.shown }

end Listening

section Steps
variable {packages : Packages} {host : Host} {decode : Bytes → Except Failure BlockHeader} {snapshotHeight : Int} {outputDir : String}
  {s next : ForgingCapture} {event : CaptureEvent} {events : List CaptureEvent}

theorem listen_step (stepped : listen packages host decode snapshotHeight outputDir s event = some next) :
    CaptureStep packages host decode snapshotHeight outputDir s event next := by
  unfold listen at stepped
  split at stepped
  · rename_i encodedBlock
    split at stepped
    · rename_i undecoded
      cases stepped
      refine .unmarked ?_ rfl rfl
      unfold isSnapshotBlock
      rw [undecoded]
    · rename_i header decoded
      cases stepped
      have marks : isSnapshotBlock decode snapshotHeight encodedBlock = decide (header.height = snapshotHeight) := by
        unfold isSnapshotBlock
        rw [decoded]
      split
      · rename_i same
        exact .marked (marks.trans (decide_eq_true same))
      · rename_i other
        exact .unmarked (marks.trans (decide_eq_false other)) rfl rfl
  · split at stepped
    · rename_i handler _ _ forgingStatuses asking
      cases stepped
      cases forgingStatuses with
      | nil => exact .unreported asking rfl rfl rfl
      | cons first rest => exact .reported asking (List.cons_ne_nil first rest)
    · rename_i asking
      cases stepped
      exact .unreported asking rfl rfl rfl
    · cases stepped
  · split at stepped
    · rename_i writing
      cases stepped
      exact .saved writing
    · rename_i writing
      cases stepped
      exact .unsaved writing
    · cases stepped

theorem captureForgingStatusAtSnapshotHeight_step
    (stepped : captureForgingStatusAtSnapshotHeight packages host decode snapshotHeight outputDir s event = some next) :
    CaptureStep packages host decode snapshotHeight outputDir s event next := listen_step (Option.ite_none_left_eq_some.mp stepped).2

theorem goes_count {old : Handler} (p : Handler → Bool) (here : s.handlers[i]? = some old) (handler : Handler) :
    (s.goes i handler).handlers.countP p+(if p old then 1 else 0) = s.handlers.countP p+(if p handler then 1 else 0) := by
  obtain ⟨bound,same⟩ := List.getElem?_eq_some_iff.mp here
  have least : p old = true → 0 < s.handlers.countP p := fun holds => List.countP_pos_iff.mpr ⟨old,same ▸ List.getElem_mem bound,holds⟩
  unfold ForgingCapture.goes
  rw [List.countP_set bound,same]
  split
  · rename_i holds
    have positive := least holds
    omega
  · omega

theorem entered_count (p : Handler → Bool) (handler : Handler) :
    (s.entered handler).handlers.countP p = s.handlers.countP p+(if p handler then 1 else 0) := by
  unfold ForgingCapture.entered
  rw [List.countP_append,List.countP_singleton]

-- What a call that has come so far owes to the events.
def Handler.Owes (packages : Packages) (decode : Bytes → Except Failure BlockHeader) (snapshotHeight : Int) (events : List CaptureEvent) (i : Nat) :
    Handler → Prop
  | .asking => ∃ encodedBlock, (blocksOf events)[i]? = some encodedBlock ∧ isSnapshotBlock decode snapshotHeight encodedBlock = true
  | .writing statuses => Reported packages decode snapshotHeight events i statuses
  | _ => True

-- What the state owes to the events so far. The node is asked once for each block
-- of the height, and every report goes to the file or to the user, or is on its way.
structure Captured (packages : Packages) (host : Host) (decode : Bytes → Except Failure BlockHeader) (snapshotHeight : Int) (outputDir : String)
    (events : List CaptureEvent) (s : ForgingCapture) : Prop where
  calls : s.handlers.length = (blocksOf events).length
  owes : ∀ i (handler : Handler), s.handlers[i]? = some handler → handler.Owes packages decode snapshotHeight events i
  files : ∀ path statuses, (path,statuses) ∈ s.files → path = forgingStatusPath host outputDir ∧
    ∃ i, Reported packages decode snapshotHeight events i statuses ∧ .written i (.ok ()) ∈ events
  asked : s.handlers.countP Handler.asks+events.countP CaptureEvent.isReply = (blocksOf events).countP (isSnapshotBlock decode snapshotHeight)
  reports : s.files.length+s.shown.length+s.handlers.countP Handler.writes = events.countP CaptureEvent.isReport
  saved : s.files.length = events.countP CaptureEvent.isSaved

theorem blocksOf_more (events : List CaptureEvent) (event : CaptureEvent) : blocksOf (events ++ [event]) = blocksOf events ++ event.block.toList := by
  unfold blocksOf
  rw [List.filterMap_append,List.filterMap_cons,List.filterMap_nil]
  cases event.block <;> rfl

theorem block_more {i : Nat} {encodedBlock : String} (here : (blocksOf events)[i]? = some encodedBlock) (event : CaptureEvent) :
    (blocksOf (events ++ [event]))[i]? = some encodedBlock := by
  obtain ⟨bound,_⟩ := List.getElem?_eq_some_iff.mp here
  rw [blocksOf_more,List.getElem?_append_left bound]
  exact here

theorem reported_more {statuses : List ForgingStatus} (reported : Reported packages decode snapshotHeight events i statuses) (event : CaptureEvent) :
    Reported packages decode snapshotHeight (events ++ [event]) i statuses := by
  obtain ⟨encodedBlock,forgingStatuses,here,marks,member,filled,same⟩ := reported
  exact ⟨encodedBlock,forgingStatuses,block_more here event,marks,List.mem_append_left _ member,filled,same⟩

theorem owes_more {handler : Handler} (owes : handler.Owes packages decode snapshotHeight events i) (event : CaptureEvent) :
    handler.Owes packages decode snapshotHeight (events ++ [event]) i := by
  cases handler with
  | asking =>
    obtain ⟨encodedBlock,here,marks⟩ := owes
    exact ⟨encodedBlock,block_more here event,marks⟩
  | writing statuses => exact reported_more owes event
  | resolved => trivial
  | rejected => trivial

theorem owes_idle {handler : Handler} (asks : handler.asks = false) (writes : handler.writes = false) :
    handler.Owes packages decode snapshotHeight events i := by
  cases handler with
  | asking => cases asks
  | writing _ => cases writes
  | resolved => trivial
  | rejected => trivial

theorem start_captured : Captured packages host decode snapshotHeight outputDir [] .start where
  calls := rfl
  owes _ _ here := by cases here
  files _ _ member := absurd member List.not_mem_nil
  asked := rfl
  reports := rfl
  saved := rfl

theorem entered_owes (captured : Captured packages host decode snapshotHeight outputDir events s) {handler : Handler} (event : CaptureEvent)
    (owes : handler.Owes packages decode snapshotHeight (events ++ [event]) s.handlers.length) :
    ∀ i (other : Handler), (s.entered handler).handlers[i]? = some other → other.Owes packages decode snapshotHeight (events ++ [event]) i := by
  intro i other here
  rcases Nat.lt_trichotomy i s.handlers.length with early | rfl | late
  · have before : s.handlers[i]? = some other := by rwa [ForgingCapture.entered,List.getElem?_append_left early] at here
    exact owes_more (captured.owes i other before) event
  · rw [ForgingCapture.entered,List.getElem?_concat_length] at here
    cases here
    exact owes
  · have beyond : (s.handlers ++ [handler]).length ≤ i := by
      rw [List.length_append]
      exact late
    rw [ForgingCapture.entered,List.getElem?_eq_none beyond] at here
    cases here

theorem goes_owes (captured : Captured packages host decode snapshotHeight outputDir events s) {handler : Handler} (event : CaptureEvent)
    (owes : handler.Owes packages decode snapshotHeight (events ++ [event]) i) :
    ∀ j (other : Handler), (s.goes i handler).handlers[j]? = some other → other.Owes packages decode snapshotHeight (events ++ [event]) j := by
  intro j other here
  rw [ForgingCapture.goes,List.getElem?_set] at here
  split at here
  · rename_i same
    subst same
    cases (Option.ite_none_right_eq_some.mp here).2
    exact owes
  · exact owes_more (captured.owes j other here) event

theorem files_more (captured : Captured packages host decode snapshotHeight outputDir events s) (event : CaptureEvent) :
    ∀ path statuses, (path,statuses) ∈ s.files → path = forgingStatusPath host outputDir ∧
      ∃ i, Reported packages decode snapshotHeight (events ++ [event]) i statuses ∧ .written i (.ok ()) ∈ events ++ [event] := by
  intro path statuses member
  obtain ⟨same,i,reported,written⟩ := captured.files path statuses member
  exact ⟨same,i,reported_more reported event,List.mem_append_left _ written⟩

theorem entered_captured (captured : Captured packages host decode snapshotHeight outputDir events s) {handler : Handler} {encodedBlock : String}
    (asks : handler.asks = isSnapshotBlock decode snapshotHeight encodedBlock) (writes : handler.writes = false) :
    Captured packages host decode snapshotHeight outputDir (events ++ [.newBlock encodedBlock]) (s.entered handler) where
  calls := by
    rw [blocksOf_more,List.length_append,ForgingCapture.entered,List.length_append,captured.calls]
    rfl
  owes := by
    apply entered_owes captured
    cases handler with
    | asking =>
      refine ⟨encodedBlock,?_,asks.symm⟩
      rw [captured.calls,blocksOf_more]
      exact List.getElem?_concat_length
    | writing _ => cases writes
    | resolved => trivial
    | rejected => trivial
  files := files_more captured _
  asked := by
    have before := captured.asked
    rw [entered_count,asks,blocksOf_more,List.countP_append,List.countP_append]
    change _ + _ + (_ + 0) = _ + List.countP _ [encodedBlock]
    rw [List.countP_singleton]
    omega
  reports := by
    have before := captured.reports
    rw [entered_count,writes,List.countP_append]
    exact before
  saved := by
    rw [List.countP_append]
    exact captured.saved

theorem replied_captured (captured : Captured packages host decode snapshotHeight outputDir events s) {handler : Handler}
    {reply : Except Fault (List ForgingStatus)} (asking : s.handlers[i]? = some .asking) (asks : handler.asks = false)
    (writes : handler.writes = (CaptureEvent.replied i reply).isReport)
    (owes : handler.Owes packages decode snapshotHeight (events ++ [.replied i reply]) i) :
    Captured packages host decode snapshotHeight outputDir (events ++ [.replied i reply]) (s.goes i handler) where
  calls := by
    rw [blocksOf_more,List.length_append,ForgingCapture.goes,List.length_set,captured.calls]
    rfl
  owes := goes_owes captured _ owes
  files := files_more captured _
  asked := by
    have before := captured.asked
    have counted := goes_count Handler.asks asking handler
    rw [asks] at counted
    change _ + 1 = _ + 0 at counted
    rw [blocksOf_more,List.countP_append]
    change _ + (_ + 1) = List.countP _ (_ ++ [])
    rw [List.append_nil]
    omega
  reports := by
    have before := captured.reports
    have counted := goes_count Handler.writes asking handler
    change _ + 0 = _ at counted
    rw [List.countP_append,List.countP_singleton,← writes]
    change s.files.length + s.shown.length + _ = _
    omega
  saved := by
    rw [List.countP_append]
    exact captured.saved

theorem saved_captured (captured : Captured packages host decode snapshotHeight outputDir events s) {statuses : List ForgingStatus}
    (writing : s.handlers[i]? = some (.writing statuses)) :
    Captured packages host decode snapshotHeight outputDir (events ++ [.written i (.ok ())])
      { s.goes i .resolved with files := (forgingStatusPath host outputDir,statuses) :: s.files } where
  calls := by
    rw [blocksOf_more,List.length_append]
    change (s.handlers.set i _).length = _
    rw [List.length_set,captured.calls]
    rfl
  owes := goes_owes captured _ trivial
  files := by
    intro path written member
    rcases List.mem_cons.mp member with same | earlier
    · cases same
      exact ⟨rfl,i,reported_more (captured.owes i _ writing) _,List.mem_append_right _ List.mem_cons_self⟩
    · exact files_more captured _ path written earlier
  asked := by
    have before := captured.asked
    have counted := goes_count Handler.asks writing .resolved
    change _ + 0 = _ + 0 at counted
    rw [blocksOf_more,List.countP_append]
    change (s.goes i .resolved).handlers.countP _ + (_ + 0) = List.countP _ (_ ++ [])
    rw [List.append_nil]
    omega
  reports := by
    have before := captured.reports
    have counted := goes_count Handler.writes writing .resolved
    change _ + 1 = _ + 0 at counted
    rw [List.countP_append]
    change s.files.length + 1 + s.shown.length + (s.goes i .resolved).handlers.countP _ = _ + 0
    omega
  saved := by
    have before := captured.saved
    rw [List.countP_append]
    change _ + 1 = _ + 1
    rw [before]

theorem unsaved_captured (captured : Captured packages host decode snapshotHeight outputDir events s) {statuses : List ForgingStatus}
    (writing : s.handlers[i]? = some (.writing statuses)) (fault : Fault) :
    Captured packages host decode snapshotHeight outputDir (events ++ [.written i (.error fault)])
      { s.goes i .resolved with shown := statuses :: s.shown } where
  calls := by
    rw [blocksOf_more,List.length_append]
    change (s.handlers.set i _).length = _
    rw [List.length_set,captured.calls]
    rfl
  owes := goes_owes captured _ trivial
  files := files_more captured _
  asked := by
    have before := captured.asked
    have counted := goes_count Handler.asks writing .resolved
    change _ + 0 = _ + 0 at counted
    rw [blocksOf_more,List.countP_append]
    change (s.goes i .resolved).handlers.countP _ + (_ + 0) = List.countP _ (_ ++ [])
    rw [List.append_nil]
    omega
  reports := by
    have before := captured.reports
    have counted := goes_count Handler.writes writing .resolved
    change _ + 1 = _ + 0 at counted
    rw [List.countP_append]
    change s.files.length + (s.shown.length + 1) + (s.goes i .resolved).handlers.countP _ = _ + 0
    omega
  saved := by
    rw [List.countP_append]
    exact captured.saved

theorem step_captured (stepped : CaptureStep packages host decode snapshotHeight outputDir s event next)
    (captured : Captured packages host decode snapshotHeight outputDir events s) :
    Captured packages host decode snapshotHeight outputDir (events ++ [event]) next := by
  cases stepped with
  | marked is => exact entered_captured captured is.symm rfl
  | unmarked other asks writes => exact entered_captured captured (asks.trans other.symm) writes
  | reported asking filled =>
    rename_i i forgingStatuses
    have isReport : (CaptureEvent.replied i (.ok forgingStatuses)).isReport = true := by
      cases forgingStatuses with
      | nil => exact absurd rfl filled
      | cons _ _ => rfl
    have waits : (Handler.writing (forgingStatuses.map (finalForgingStatus packages))).asks = false := rfl
    apply replied_captured captured asking waits isReport.symm
    obtain ⟨encodedBlock,here,marks⟩ := captured.owes i _ asking
    exact ⟨encodedBlock,forgingStatuses,block_more here _,marks,List.mem_append_right _ List.mem_cons_self,filled,rfl⟩
  | unreported asking none asks writes => exact replied_captured captured asking asks (writes.trans none.symm) (owes_idle asks writes)
  | saved writing => exact saved_captured captured writing
  | unsaved writing => exact unsaved_captured captured writing _

theorem ran_captured
    (ran : run (captureForgingStatusAtSnapshotHeight packages host decode snapshotHeight outputDir) .start events = some s) :
    Captured packages host decode snapshotHeight outputDir events s := by
  apply run_history _ _ ran
  · exact start_captured
  · exact fun _ _ _ _ _ stepped captured => step_captured (captureForgingStatusAtSnapshotHeight_step stepped) captured

theorem step_files (stepped : CaptureStep packages host decode snapshotHeight outputDir s event next) : s.files <:+ next.files := by
  cases stepped with
  | saved writing => exact List.suffix_cons _ _
  | _ => exact List.suffix_rfl

theorem run_files (ran : run (captureForgingStatusAtSnapshotHeight packages host decode snapshotHeight outputDir) s events = some next) :
    s.files <:+ next.files := by
  apply run_history _ _ ran
  · exact List.suffix_rfl
  · exact fun _ _ _ _ _ stepped before => before.trans (step_files (captureForgingStatusAtSnapshotHeight_step stepped))

theorem reports_replies (events : List CaptureEvent) : events.countP CaptureEvent.isReport ≤ events.countP CaptureEvent.isReply := by
  apply List.countP_mono_left
  intro event _ isReport
  cases event with
  | replied i reply => rfl
  | newBlock _ => cases isReport
  | written _ _ => cases isReport

theorem fileAt_none (here : s.fileAt path = none) (only : ∀ place statuses, (place,statuses) ∈ s.files → place = path) : s.files = [] := by
  cases files : s.files with
  | nil => rfl
  | cons file rest =>
    obtain ⟨place,statuses⟩ := file
    have same : place = path := only place statuses (files ▸ List.mem_cons_self)
    rw [ForgingCapture.fileAt,files,same,List.lookup_cons_self] at here
    cases here

theorem fileAt_member {statuses : List ForgingStatus} (here : s.fileAt path = some statuses) : (path,statuses) ∈ s.files := by
  unfold ForgingCapture.fileAt at here
  obtain ⟨before,after,split,_⟩ := List.lookup_eq_some_iff.mp here
  rw [split]
  exact List.mem_append_right _ List.mem_cons_self

end Steps

section Results
variable {packages : Packages} {host : Host} {decode : Bytes → Except Failure BlockHeader} {snapshotHeight : Int} {outputDir : String}
  {s t : ForgingCapture} {before later : List CaptureEvent}

end Results

namespace Sample

-- A block whose header has nothing but the height.
def decodeBlock (bytes : Bytes) : Except Failure BlockHeader :=
  match bytes with
  | [high,low] => .ok ⟨2,0,256*high.toNat+low.toNat,[],[],[],0,[],[]⟩
  | _ => .error (.thrown "Invalid block")

def forger : ForgingStatus := ⟨"0a",none,true,some 299,none,some 250⟩

def finalForger : ForgingStatus := finalForgingStatus packages forger

def forgingStart : List CaptureEvent := [.newBlock "012b",.newBlock "012c",.replied 1 (.ok [forger]),.newBlock "012d",.written 1 (.ok ())]

def forgingLater : List CaptureEvent := [.newBlock ""]

def forgingMiddle : ForgingCapture := ⟨[.resolved,.resolved,.resolved],[("/out/forgingStatus.json",[finalForger])],[]⟩

def forgingEnd : ForgingCapture := ⟨[.resolved,.resolved,.resolved,.rejected],[("/out/forgingStatus.json",[finalForger])],[]⟩

theorem forging_first : Runs.run (captureForgingStatusAtSnapshotHeight packages host decodeBlock 300 "/out") .start forgingStart = some forgingMiddle := by
  rfl

theorem forging_second : Runs.run (captureForgingStatusAtSnapshotHeight packages host decodeBlock 300 "/out") forgingMiddle forgingLater = some forgingEnd := by
  rfl

end Sample

end LiskMigrator
