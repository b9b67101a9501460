import LiskMigrator.Checksums
import LiskMigrator.Extraction
import LiskMigrator.Utils.Streams

namespace LiskMigrator
open FileTree Interaction Monitor Runs Text Words

def TransferEvent.chunk : TransferEvent → Bytes
  | .data chunk => chunk
  | _ => []

-- What the response has delivered.
def deliveredBody (events : List TransferEvent) : Bytes := events.flatMap TransferEvent.chunk

-- The write stream failed when somebody listened to it, or before.
def FailedLate (events : List TransferEvent) : Prop := Behind (.respond ∈ ·) .writeError events

def FailedEarly (events : List TransferEvent) : Prop := Behind (.respond ∉ ·) .writeError events

-- The events of a download one by one, as rules.
inductive TransferStep (s : Transfer) : TransferEvent → Transfer → Prop where
  | respond (awaited : s.response = .awaited) : TransferStep s .respond { s with response := .flowing }
  | refuse (awaited : s.response = .awaited) :
      TransferStep s .refuse { s with response := .refused, promise := s.promise.settle .rejected }
  | data (flowing : s.response = .flowing) (opened : s.writeStream = .opened) :
      TransferStep s (.data chunk) { s with buffer := s.buffer ++ chunk }
  | responseEnd (flowing : s.response = .flowing) (opened : s.writeStream = .opened) :
      TransferStep s .responseEnd { s with response := .ended }
  | responseLost (flowing : s.response = .flowing) : TransferStep s .responseLost { s with response := .lost }
  | write (opened : s.writeStream = .opened) :
      TransferStep s (.write count) { s with buffer := s.buffer.drop count, file := s.file ++ s.buffer.take count }
  | finish (opened : s.writeStream = .opened) (ended : s.response = .ended) (empty : s.buffer = []) :
      TransferStep s .finish { s with writeStream := .finished, promise := s.promise.settle .resolved }
  | failed (opened : s.writeStream = .opened) (listens : s.listens = true) :
      TransferStep s .writeError { s with writeStream := .failed, promise := s.promise.settle .rejected }
  | crashed (opened : s.writeStream = .opened) (unheard : s.listens = false) :
      TransferStep s .writeError { s with writeStream := .failed, crashed := true }

-- The promise is open as long as something may settle it.
structure Transfer.Waits (s : Transfer) : Prop where
  asked : s.response = .awaited → s.promise = .pending
  opened : s.writeStream = .opened → s.response ≠ .refused → s.promise = .pending
  complete : s.writeStream = .finished → s.response = .ended ∧ s.buffer = []

section Steps
variable {s next : Transfer} {event : TransferEvent} {events : List TransferEvent}

theorem download_step (stepped : Streams.download s event = some next) : s.crashed = false ∧ TransferStep s event next := by
  unfold Streams.download at stepped
  split at stepped
  · cases stepped
  · rename_i runs
    refine ⟨Bool.eq_false_iff.mpr runs,?_⟩
    cases event with
    | respond =>
      simp only [Option.ite_none_right_eq_some,Option.some.injEq] at stepped
      obtain ⟨awaited,rfl⟩ := stepped
      exact .respond awaited
    | refuse =>
      simp only [Option.ite_none_right_eq_some,Option.some.injEq] at stepped
      obtain ⟨awaited,rfl⟩ := stepped
      exact .refuse awaited
    | data chunk =>
      simp only [Option.ite_none_right_eq_some,Option.some.injEq] at stepped
      obtain ⟨⟨flowing,opened⟩,rfl⟩ := stepped
      exact .data flowing opened
    | responseEnd =>
      simp only [Option.ite_none_right_eq_some,Option.some.injEq] at stepped
      obtain ⟨⟨flowing,opened⟩,rfl⟩ := stepped
      exact .responseEnd flowing opened
    | responseLost =>
      simp only [Option.ite_none_right_eq_some,Option.some.injEq] at stepped
      obtain ⟨flowing,rfl⟩ := stepped
      exact .responseLost flowing
    | write count =>
      simp only [Option.ite_none_right_eq_some,Option.some.injEq] at stepped
      obtain ⟨opened,rfl⟩ := stepped
      exact .write opened
    | finish =>
      simp only [Option.ite_none_right_eq_some,Option.some.injEq] at stepped
      obtain ⟨⟨opened,ended,empty⟩,rfl⟩ := stepped
      exact .finish opened ended empty
    | writeError =>
      dsimp only at stepped
      split at stepped
      · rename_i opened
        split at stepped
        · rename_i listens
          cases stepped
          exact .failed opened listens
        · rename_i unheard
          cases stepped
          exact .crashed opened (Bool.eq_false_iff.mpr unheard)
      · cases stepped

theorem listens_flowing (flowing : s.response = .flowing) : s.listens = true := by
  simp [Transfer.listens,flowing]

theorem listens_answered (listens : s.listens = true) : s.response ≠ .awaited ∧ s.response ≠ .refused := by
  constructor
  · intro awaited
    simp [Transfer.listens,awaited] at listens
  · intro refused
    simp [Transfer.listens,refused] at listens

theorem start_waits : Transfer.start.Waits := ⟨fun _ => rfl,fun _ _ => rfl,nofun⟩

theorem step_waits (waits : s.Waits) (step : TransferStep s event next) : next.Waits := by
  obtain ⟨asked,opened,complete⟩ := waits
  cases step with
  | respond awaited => exact ⟨nofun,fun _ _ => asked awaited,fun finished => (nomatch awaited.symm.trans (complete finished).1)⟩
  | refuse awaited =>
    exact ⟨nofun,fun _ answered => absurd rfl answered,fun finished => (nomatch awaited.symm.trans (complete finished).1)⟩
  | data flowing isOpen =>
    exact ⟨asked,opened,fun finished => (nomatch isOpen.symm.trans finished)⟩
  | responseEnd flowing isOpen =>
    have answered : s.response ≠ .refused := (listens_answered (listens_flowing flowing)).2
    exact ⟨nofun,fun _ _ => opened isOpen answered,fun finished => (nomatch isOpen.symm.trans finished)⟩
  | responseLost flowing =>
    have answered : s.response ≠ .refused := (listens_answered (listens_flowing flowing)).2
    exact ⟨nofun,fun isOpen _ => opened isOpen answered,fun finished => (nomatch flowing.symm.trans (complete finished).1)⟩
  | write isOpen => exact ⟨asked,opened,fun finished => (nomatch isOpen.symm.trans finished)⟩
  | finish isOpen ended empty =>
    exact ⟨fun awaited => (nomatch ended.symm.trans awaited),nofun,fun _ => ⟨ended,empty⟩⟩
  | failed isOpen listens =>
    exact ⟨fun awaited => absurd awaited (listens_answered listens).1,nofun,nofun⟩
  | crashed isOpen unheard => exact ⟨asked,nofun,nofun⟩

-- What one event changes, field by field.
theorem step_listens (step : TransferStep s event next) : next.listens = true ↔ s.listens = true ∨ event = .respond := by
  cases step with
  | respond awaited => simp [Transfer.listens]
  | refuse awaited => simp [Transfer.listens,awaited]
  | data flowing opened => simp [Transfer.listens]
  | responseEnd flowing opened => simp [Transfer.listens,flowing]
  | responseLost flowing => simp [Transfer.listens,flowing]
  | write opened => simp [Transfer.listens]
  | finish opened ended empty => simp [Transfer.listens]
  | failed opened listens => simp [Transfer.listens]
  | crashed opened unheard => simp [Transfer.listens]

theorem step_refused (step : TransferStep s event next) : next.response = .refused ↔ s.response = .refused ∨ event = .refuse := by
  cases step with
  | respond awaited => simp [awaited]
  | responseEnd flowing => simp [flowing]
  | responseLost flowing => simp [flowing]
  | _ => simp

theorem step_ended (step : TransferStep s event next) : next.response = .ended ↔ s.response = .ended ∨ event = .responseEnd := by
  cases step with
  | respond awaited => simp [awaited]
  | refuse awaited => simp [awaited]
  | responseLost flowing => simp [flowing]
  | _ => simp

theorem step_lost (step : TransferStep s event next) : next.response = .lost ↔ s.response = .lost ∨ event = .responseLost := by
  cases step with
  | respond awaited => simp [awaited]
  | refuse awaited => simp [awaited]
  | responseEnd flowing => simp [flowing]
  | _ => simp

theorem step_closed (step : TransferStep s event next) : next.writeStream = .finished ↔ s.writeStream = .finished ∨ event = .finish := by
  cases step with
  | failed opened listens => simp [opened]
  | crashed opened unheard => simp [opened]
  | _ => simp

theorem step_resolved (waits : s.Waits) (step : TransferStep s event next) :
    next.promise = .resolved ↔ s.promise = .resolved ∨ event = .finish := by
  cases step with
  | refuse awaited => simp [waits.asked awaited,Settlement.settle]
  | finish opened ended empty =>
    have pending := waits.opened opened (by simp [ended])
    simp [Settlement.settle,pending]
  | failed opened listens =>
    have pending := waits.opened opened (listens_answered listens).2
    simp [Settlement.settle,pending]
  | _ => simp

theorem step_rejected (waits : s.Waits) (step : TransferStep s event next) :
    next.promise = .rejected ↔ s.promise = .rejected ∨ event = .refuse ∨ event = .writeError ∧ s.listens = true := by
  cases step with
  | refuse awaited => simp [Settlement.settle,waits.asked awaited]
  | finish opened ended empty =>
    have pending := waits.opened opened (by simp [ended])
    simp [Settlement.settle,pending]
  | failed opened listens =>
    have pending := waits.opened opened (listens_answered listens).2
    simp [Settlement.settle,pending,listens]
  | crashed opened unheard => simp [unheard]
  | _ => simp

theorem step_crashed (step : TransferStep s event next) : next.crashed = true ↔ s.crashed = true ∨ event = .writeError ∧ s.listens = false := by
  cases step with
  | failed opened listens => simp [listens]
  | crashed opened unheard => simp [unheard]
  | _ => simp

theorem step_body (step : TransferStep s event next) : next.file ++ next.buffer = s.file ++ s.buffer ++ event.chunk := by
  cases step with
  | data flowing opened => simp [TransferEvent.chunk]
  | write opened => simp [TransferEvent.chunk]
  | _ => simp [TransferEvent.chunk]

end Steps

section Runs
variable {s : Transfer} {events : List TransferEvent}

theorem ran_waits (ran : run Streams.download .start events = some s) : s.Waits := by
  apply run_history _ _ ran
  · exact start_waits
  · exact fun _ _ _ _ _ stepped waits => step_waits waits (download_step stepped).2

theorem ran_body (ran : run Streams.download .start events = some s) : s.file ++ s.buffer = deliveredBody events := by
  apply run_history _ _ ran
  · rfl
  · intro before t event next _ stepped body
    rw [step_body (download_step stepped).2,body]
    simp [deliveredBody]

-- A mark of the state that one event makes is there if the event was.
theorem ran_marked (mark : Transfer → Prop) {made : TransferEvent} (unmarked : ¬ mark .start)
    (marks : ∀ t event next, t.Waits → TransferStep t event next → (mark next ↔ mark t ∨ event = made))
    (ran : run Streams.download .start events = some s) : mark s ↔ made ∈ events := by
  apply run_history _ _ ran
  · simp [unmarked]
  · intro before t event next earlier stepped told
    rw [marks t event next (ran_waits earlier) (download_step stepped).2,told,List.mem_append,List.mem_singleton,@eq_comm _ event]

theorem ran_listens (ran : run Streams.download .start events = some s) : s.listens = true ↔ .respond ∈ events :=
  ran_marked (fun s => s.listens = true) (by decide) (fun _ _ _ _ => step_listens) ran

theorem ran_refused (ran : run Streams.download .start events = some s) : s.response = .refused ↔ .refuse ∈ events :=
  ran_marked (fun s => s.response = .refused) (by decide) (fun _ _ _ _ => step_refused) ran

theorem ran_ended (ran : run Streams.download .start events = some s) : s.response = .ended ↔ .responseEnd ∈ events :=
  ran_marked (fun s => s.response = .ended) (by decide) (fun _ _ _ _ => step_ended) ran

theorem ran_lost (ran : run Streams.download .start events = some s) : s.response = .lost ↔ .responseLost ∈ events :=
  ran_marked (fun s => s.response = .lost) (by decide) (fun _ _ _ _ => step_lost) ran

theorem ran_resolved (ran : run Streams.download .start events = some s) : s.promise = .resolved ↔ .finish ∈ events :=
  ran_marked (fun s => s.promise = .resolved) (by decide) (fun _ _ _ => step_resolved) ran

theorem ran_closed (ran : run Streams.download .start events = some s) : s.writeStream = .finished ↔ .finish ∈ events :=
  ran_marked (fun s => s.writeStream = .finished) (by decide) (fun _ _ _ _ => step_closed) ran

theorem ran_rejected (ran : run Streams.download .start events = some s) :
    s.promise = .rejected ↔ .refuse ∈ events ∨ FailedLate events := by
  apply run_history _ _ ran
  · simp [Transfer.start,FailedLate,Behind]
  · intro before t event next earlier stepped told
    rw [step_rejected (ran_waits earlier) (download_step stepped).2,told,ran_listens earlier,List.mem_append,List.mem_singleton]
    unfold FailedLate
    rw [behind_snoc,@eq_comm _ event]
    tauto

theorem ran_crashed (ran : run Streams.download .start events = some s) : s.crashed = true ↔ FailedEarly events := by
  apply run_history _ _ ran
  · simp [Transfer.start,FailedEarly,Behind]
  · intro before t event next earlier stepped told
    have unheard : t.listens = false ↔ .respond ∉ before := by
      rw [← ran_listens earlier,Bool.not_eq_true]
    rw [step_crashed (download_step stepped).2,told,unheard]
    unfold FailedEarly
    rw [behind_snoc]

theorem ran_complete (ran : run Streams.download .start events = some s) (resolved : s.promise = .resolved) :
    s.response = .ended ∧ s.file = deliveredBody events := by
  obtain ⟨ended,empty⟩ := (ran_waits ran).complete ((ran_closed ran).mpr ((ran_resolved ran).mp resolved))
  have body := ran_body ran
  rw [empty,List.append_nil] at body
  exact ⟨ended,body⟩

end Runs

-- The body comes in two parts; the stream writes at its own pace.
def Sample.transfer : List TransferEvent :=
  [.respond,.data [1,2],.write 1,.data [3],.responseEnd,.write 2,.finish]

def Sample.transferred : Transfer := ⟨.ended,[],[1,2,3],.finished,.resolved,false⟩

section Hashed
variable {digest : Bytes → Bytes} {file : Bytes} {s : Hashing} {events : List HashEvent} {hash : String}

-- All of the file is hashed, in whatever parts it is read.
structure Hashes (digest : Bytes → Bytes) (file : Bytes) (s : Hashing) : Prop where
  parts : s.hashed ++ s.unread = file
  resolved : ∀ hash, s.promise = .resolved hash → hash = toHex (digest file)

theorem createChecksum_hashes (ran : run (Streams.createChecksum digest) (.start file) events = some s) : Hashes digest file s := by
  apply run_history _ _ ran
  · exact ⟨rfl,nofun⟩
  · intro before t event next _ stepped told
    cases event with
    | data count =>
      simp only [Streams.createChecksum,Option.ite_none_right_eq_some,Option.some.injEq] at stepped
      obtain ⟨pending,rfl⟩ := stepped
      refine ⟨?_,told.resolved⟩
      rw [List.append_assoc,List.take_append_drop]
      exact told.parts
    | streamEnd =>
      simp only [Streams.createChecksum,Option.ite_none_right_eq_some,Option.some.injEq] at stepped
      obtain ⟨⟨pending,read⟩,rfl⟩ := stepped
      refine ⟨told.parts,?_⟩
      intro hash resolved
      have whole := told.parts
      rw [read,List.append_nil] at whole
      rw [← whole]
      exact (HashPromise.resolved.inj resolved).symm
    | streamError =>
      simp only [Streams.createChecksum,Option.ite_none_right_eq_some,Option.some.injEq] at stepped
      obtain ⟨pending,rfl⟩ := stepped
      exact ⟨told.parts,nofun⟩

end Hashed

-- A digest in hexadecimal is one word.
theorem toHex_word (bytes : Bytes) : ' ' ∉ (toHex bytes).toList := by
  have digit (d : Nat) (small : d < 16) : Nat.digitChar d ≠ ' ' := by
    revert d
    decide
  rw [toHex,String.toList_ofList]
  intro blank
  obtain ⟨byte,_,member⟩ := List.mem_flatMap.mp blank
  have bound := byte.toNat_lt
  rcases List.mem_pair.mp member with high | low
  · exact digit _ (by omega) high.symm
  · exact digit _ (by omega) low.symm

section World
variable {digest : Bytes → Bytes} {encode : String → Bytes} {decode : Bytes → String} {host : Host} {served : String → Bytes}
  {contents : List (Event migrator) → Location → Option Bytes} {world : World migrator} {packages : Packages} {rounds : Nat}

-- Files of bytes, read and written as texts, with their digests in hexadecimal.
def byteFiles (digest : Bytes → Bytes) (encode : String → Bytes) (decode : Bytes → String) (same : ∀ content, decode (encode content) = content) :
    Files Bytes := ⟨encode,decode,fun file => toHex (digest file),same,fun file => toHex_word (digest file)⟩

-- A world in which downloads and checksums are made by the streams: what a download
-- leaves behind is the file of a stream that resolved, and a checksum is what a
-- stream resolved with.
structure Streaming (host : Host) (digest : Bytes → Bytes) (encode : String → Bytes) (decode : Bytes → String) (served : String → Bytes)
    (contents : List (Event migrator) → Location → Option Bytes) (world : World migrator) : Prop where
  reads : ∀ events path content, world events (.read path) = .ok content →
    ∃ file, contents events (locate host path) = some file ∧ content = decode file
  sums : ∀ events path checksum, world events (.createChecksum path) = .ok checksum → ∃ file parts s,
    contents events (locate host path) = some file ∧ run (Streams.createChecksum digest) (.start file) parts = some s ∧
      s.promise = .resolved checksum
  downloads : ∀ events url path, ∃ transfer s, run Streams.download .start transfer = some s ∧ s.promise = .resolved ∧
    deliveredBody transfer = served url ∧ contents (⟨.download url path,.ok ()⟩ :: events) (locate host path) = some s.file
  writes : ∀ events path content, contents (⟨.write path content,.ok ()⟩ :: events) (locate host path) = some (encode content)
  keeps : ∀ event events place, ¬ Touches host event.call place → contents (event :: events) place = contents events place

theorem streaming_keeping (same : ∀ content, decode (encode content) = content)
    (streaming : Streaming host digest encode decode served contents world) :
    Keeping host (byteFiles digest encode decode same) served contents world where
  reads := streaming.reads
  sums := by
    intro events path checksum answered
    obtain ⟨file,parts,s,lies,ran,resolved⟩ := streaming.sums events path checksum answered
    exact ⟨file,lies,(createChecksum_hashes ran).resolved checksum resolved⟩
  downloads := by
    intro events url path
    obtain ⟨transfer,s,ran,resolved,delivers,lies⟩ := streaming.downloads events url path
    rw [lies,(ran_complete ran resolved).2,delivers]
  writes := streaming.writes
  keeps := streaming.keeps

-- The world that answers for its files itself is one of streams: each body comes
-- as one part, and each file is read as one.
theorem keeper_streaming (same : ∀ content, decode (encode content) = content) (pack : Bytes → Bytes) (created : Location → Option Bytes)
    (rest : World migrator) :
    Streaming host digest encode decode served (filesAfter host (byteFiles digest encode decode same) served pack created)
      (keeper host (byteFiles digest encode decode same) served pack created rest) := by
  have keeping := keeper_keeping host (byteFiles digest encode decode same) served pack created rest
  refine ⟨keeping.reads,?_,?_,keeping.writes,keeping.keeps⟩
  · intro events path checksum answered
    obtain ⟨file,lies,rfl⟩ := keeping.sums events path checksum answered
    exact ⟨file,[.data file.length,.streamEnd],⟨[],file,.resolved (toHex (digest file))⟩,lies,
      by simp [run,Streams.createChecksum,Hashing.start],rfl⟩
  · intro events url path
    refine ⟨[.respond,.data (served url),.responseEnd,.write (served url).length,.finish],
      ⟨.ended,[],served url,.finished,.resolved,false⟩,?_,rfl,?_,keeping.downloads events url path⟩
    · simp [run,Streams.download,Transfer.start,Settlement.settle]
    · simp [deliveredBody,TransferEvent.chunk]

-- The bytes that are hashed are those that the server delivered, however the
-- connection split them, the file was written and read again, and these went on
-- side by side: a run uses a snapshot from a URL only where their digest is the
-- first word of what was delivered beside them.
theorem snapshot_streamed (same : ∀ content, decode (encode content) = content)
    (streaming : Streaming host digest encode decode served contents world) (flags : Flags) (remote : given flags.snapshotURL = true)
    (split : runEvents host packages rounds world flags = earlier ++ event :: later) (uses : event.call.usesSnapshot = true) :
    toHex (digest (served (flags.snapshotURL.getD ""))) = firstWord (decode (served (flags.snapshotURL.getD "" ++ checksumSuffix))) ∧
      ∀ src dest, event.call = .extractTarBall src dest →
        contents earlier.reverse (locate host src) = some (served (flags.snapshotURL.getD "")) := by
  obtain ⟨networkIdentifier,before,content,ends,answered,extracts⟩ := used_verification flags remote split uses
  have formed : endsWith (contextOf host flags networkIdentifier).snapshotURL "tar.gz" = true := ends
  obtain ⟨matching,lies⟩ := verification_sound (streaming_keeping same streaming) formed before content answered
  refine ⟨matching,?_⟩
  intro src dest extracted
  obtain ⟨rfl,rfl⟩ := extracts src dest extracted
  exact lies

end World

namespace Sample

def encode (content : String) : Bytes := content.toByteArray.data.toList

def decode (file : Bytes) : String := (String.fromUTF8? ⟨file.toArray⟩).getD ""

theorem decode_encode (content : String) : decode (encode content) = content := by
  have whole : (⟨content.toByteArray.data.toList.toArray⟩ : ByteArray) = content.toByteArray := rfl
  unfold decode encode String.fromUTF8?
  rw [whole,dif_pos content.isValidUTF8]
  rfl

def sha (file : Bytes) : Bytes := fromHex (digests.digest (decode file))

-- The server of the snapshot, with its bytes.
def streamed : World migrator :=
  keeper host (byteFiles sha encode decode decode_encode) (fun url => encode (snapshots url)) (fun file => encode ("packed " ++ decode file))
    (fun place => (genesisFiles place).map encode) downloading

def streamedFiles : List (Event migrator) → Location → Option Bytes :=
  filesAfter host (byteFiles sha encode decode decode_encode) (fun url => encode (snapshots url)) (fun file => encode ("packed " ++ decode file))
    (fun place => (genesisFiles place).map encode)

theorem streamed_extracts : (runEvents host packages 4 streamed urlFlags).any extracts = true := by decide +kernel

end Sample

theorem snapshot_streamed_sample : toHex (Sample.sha (Sample.encode (Sample.snapshots "http://snapshots/blocks.tar.gz"))) =
      firstWord (Sample.decode (Sample.encode (Sample.snapshots ("http://snapshots/blocks.tar.gz" ++ checksumSuffix)))) ∧
    ∃ earlier src dest reply later,
      runEvents Sample.host Sample.packages 4 Sample.streamed Sample.urlFlags = earlier ++ ⟨.extractTarBall src dest,reply⟩ :: later ∧
      Sample.streamedFiles earlier.reverse (locate Sample.host src) = some (Sample.encode (Sample.snapshots "http://snapshots/blocks.tar.gz")) := by
  obtain ⟨⟨call,reply⟩,member,extracted⟩ := List.any_eq_true.mp Sample.streamed_extracts
  obtain ⟨src,dest,rfl⟩ := Sample.extracts_tarball extracted
  obtain ⟨earlier,later,split⟩ := List.append_of_mem member
  obtain ⟨matching,unpacked⟩ := snapshot_streamed Sample.decode_encode (keeper_streaming Sample.decode_encode _ _ Sample.downloading)
    Sample.urlFlags rfl split rfl
  exact ⟨matching,earlier,src,dest,reply,later,split,unpacked src dest rfl⟩

end LiskMigrator
