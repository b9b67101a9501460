import LiskMigrator.Library.Runs

namespace LiskMigrator

-- The promise of extractTarBall, and what it is settled with. Settling it a
-- second time changes nothing.
inductive Settlement where
  | pending
  | resolved
  | rejected
deriving DecidableEq

def Settlement.settle (promise : Settlement) (outcome : Settlement) : Settlement :=
  if promise = .pending then outcome else promise

inductive SourceStream where
  | reading
  | ended
  | failed
deriving DecidableEq

inductive Extractor where
  | running
  | finished
  | failed
deriving DecidableEq

-- extractTarBall between two events: the file stream, the timer it sets at its
-- end, and the tar extractor behind the pipe, which works at its own pace.
structure Extraction (Entry : Type) where
  source : SourceStream
  timerSet : Bool
  extractor : Extractor
  remaining : List Entry
  destDir : List Entry
  promise : Settlement
deriving DecidableEq

inductive ExtractionEvent (Entry : Type) where
  | sourceEnd
  | sourceError
  | timer
  | write (entry : Entry)
  | finish
  | fail
deriving DecidableEq

-- The destination is removed and made anew before the first byte is read.
def Extraction.start {Entry : Type} (archive : List Entry) : Extraction Entry := ⟨.reading,false,.running,archive,[],.pending⟩

-- Nothing in extractTarBall listens to the extractor. That it finishes reaches
-- neither the timer nor the promise, and an error that it emits has no listener,
-- which ends the process. Of an entry that it cannot write tar only warns, so it
-- may finish with entries left.
def extractTarBall {Entry : Type} [DecidableEq Entry] (s : Extraction Entry) : ExtractionEvent Entry → Option (Extraction Entry)
  | .sourceEnd =>
    if s.extractor ≠ .failed ∧ s.source = .reading then some { s with source := .ended, timerSet := true } else none
  | .sourceError =>
    if s.extractor ≠ .failed ∧ s.source = .reading then
      some { s with source := .failed, promise := s.promise.settle .rejected }
    else none
  | .timer =>
    if s.extractor ≠ .failed ∧ s.timerSet then some { s with timerSet := false, promise := s.promise.settle .resolved }
    else none
  | .write entry =>
    if s.extractor = .running ∧ entry ∈ s.remaining then
      some { s with remaining := s.remaining.erase entry, destDir := s.destDir ++ [entry] }
    else none
  | .finish => if s.extractor = .running then some { s with extractor := .finished } else none
  | .fail => if s.extractor = .running then some { s with extractor := .failed } else none

end LiskMigrator
