import LiskMigrator.Library.Runs

namespace LiskMigrator

-- The part of getNodeInfo's reply that observeChainHeight reads.
structure NodeHeights where
  height : Int
  finalizedHeight : Int
deriving DecidableEq

-- `label`, `liskCoreV3DataPath` and `delay` decide nothing: the timer fires when
-- it fires.
structure ObserveParams where
  height : Int
  isFinal : Bool
deriving DecidableEq

def ObserveParams.heightOf (options : ObserveParams) (info : NodeHeights) : Int :=
  if options.isFinal then info.finalizedHeight else info.height

inductive Observed (E : Type) where
  | pending
  | resolved (height : Int)
  | rejected (error : E)
deriving DecidableEq

-- The first of resolve and reject counts.
def Observed.settle (promise outcome : Observed E) : Observed E :=
  match promise with
  | .pending => outcome
  | settled => settled

-- observeChainHeight between two events. Queries are numbered as they are
-- started; query 0 is the one before the timer.
structure HeightObservation (E : Type) where
  queries : Nat
  inFlight : List Nat
  startHeight : Option Int
  intervalSet : Bool
  promise : Observed E
deriving DecidableEq

inductive HeightEvent (E : Type) where
  | tick
  | reply (query : Nat) (info : NodeHeights)
  | fail (query : Nat) (error : E)
deriving DecidableEq

namespace HeightObservation
variable {E : Type}

def start : HeightObservation E := ⟨1,[0],none,false,.pending⟩

-- The reply to the query before the timer.
def started (s : HeightObservation E) (options : ObserveParams) (startHeight : Int) : HeightObservation E :=
  if startHeight ≥ options.height then
    { s with startHeight := some startHeight, promise := s.promise.settle (.resolved startHeight) }
  else { s with startHeight := some startHeight, intervalSet := true }

-- The reply to a query of the timer.
def checked (s : HeightObservation E) (options : ObserveParams) (height : Int) : HeightObservation E :=
  if height ≥ options.height then { s with intervalSet := false, promise := s.promise.settle (.resolved options.height) } else s

def answered (s : HeightObservation E) (query : Nat) : HeightObservation E := { s with inFlight := s.inFlight.erase query }

end HeightObservation

-- A query that fails rejects the promise; the interval is left as it is.
def observeChainHeight {E : Type} (options : ObserveParams) (s : HeightObservation E) : HeightEvent E → Option (HeightObservation E)
  | .tick => if s.intervalSet then some { s with queries := s.queries+1, inFlight := s.inFlight ++ [s.queries] } else none
  | .reply query info =>
    if query ∈ s.inFlight then
      match s.startHeight with
      | none => some ((s.answered query).started options (options.heightOf info))
      | some _ => some ((s.answered query).checked options (options.heightOf info))
    else none
  | .fail query error =>
    if query ∈ s.inFlight then some { s.answered query with promise := s.promise.settle (.rejected error) } else none

end LiskMigrator
