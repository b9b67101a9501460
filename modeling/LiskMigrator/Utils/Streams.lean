import LiskMigrator.Library.Bytes
import LiskMigrator.Utils.TarBall

namespace LiskMigrator
open Text

-- The answer to the request of a download, and then its body.
inductive ResponseStream where
  | awaited
  | flowing
  | ended
  | lost
  | refused
deriving DecidableEq

inductive WriteStream where
  | opened
  | finished
  | failed
deriving DecidableEq

-- download between two events. The file is made anew before the request is sent;
-- what the pipe has taken from the body and not yet written is in the buffer.
structure Transfer where
  response : ResponseStream
  buffer : Bytes
  file : Bytes
  writeStream : WriteStream
  promise : Settlement
  crashed : Bool
deriving DecidableEq

inductive TransferEvent where
  | respond
  | refuse
  | data (chunk : Bytes)
  | responseEnd
  | responseLost
  | write (count : Nat)
  | finish
  | writeError
deriving DecidableEq

def Transfer.start : Transfer := ⟨.awaited,[],[],.opened,.pending,false⟩

-- The listeners of the write stream are set up only once the request has been
-- answered; before that an error of the stream ends the process.
def Transfer.listens (s : Transfer) : Bool :=
  match s.response with
  | .awaited => false
  | .refused => false
  | _ => true

-- How the promise of a stream of hashed data is settled.
inductive HashPromise where
  | pending
  | resolved (hash : String)
  | rejected
deriving DecidableEq

structure Hashing where
  unread : Bytes
  hashed : Bytes
  promise : HashPromise
deriving DecidableEq

inductive HashEvent where
  | data (count : Nat)
  | streamEnd
  | streamError
deriving DecidableEq

def Hashing.start (file : Bytes) : Hashing := ⟨file,[],.pending⟩

namespace Streams

-- The pipe ends the write stream when the body ends, but not when the connection
-- is lost, which nothing in download listens to. It stops with the write stream.
def download (s : Transfer) (event : TransferEvent) : Option Transfer :=
  if s.crashed then none
  else
    match event with
    | .respond => if s.response = .awaited then some { s with response := .flowing } else none
    | .refuse =>
      if s.response = .awaited then some { s with response := .refused, promise := s.promise.settle .rejected } else none
    | .data chunk =>
      if s.response = .flowing ∧ s.writeStream = .opened then some { s with buffer := s.buffer ++ chunk } else none
    | .responseEnd => if s.response = .flowing ∧ s.writeStream = .opened then some { s with response := .ended } else none
    | .responseLost => if s.response = .flowing then some { s with response := .lost } else none
    | .write count =>
      if s.writeStream = .opened then
        some { s with buffer := s.buffer.drop count, file := s.file ++ s.buffer.take count }
      else none
    | .finish =>
      if s.writeStream = .opened ∧ s.response = .ended ∧ s.buffer = [] then
        some { s with writeStream := .finished, promise := s.promise.settle .resolved }
      else none
    | .writeError =>
      if s.writeStream = .opened then
        if s.listens then some { s with writeStream := .failed, promise := s.promise.settle .rejected }
        else some { s with writeStream := .failed, crashed := true }
      else none

-- The stream that createChecksum, and verifyChecksum in the same words, hashes. `digest` is
-- that of SHA-256; updating it part by part comes to hashing the whole.
def createChecksum (digest : Bytes → Bytes) (s : Hashing) : HashEvent → Option Hashing
  | .data count =>
    if s.promise = .pending then some { s with unread := s.unread.drop count, hashed := s.hashed ++ s.unread.take count } else none
  | .streamEnd =>
    if s.promise = .pending ∧ s.unread = [] then some { s with promise := .resolved (toHex (digest s.hashed)) } else none
  | .streamError => if s.promise = .pending then some { s with promise := .rejected } else none

end Streams
end LiskMigrator
