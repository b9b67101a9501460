import LiskMigrator.Utils.ChainHeight

namespace LiskMigrator
open Runs

-- The events one by one, as rules.
inductive ObservationStep {E : Type} (options : ObserveParams) :
    HeightObservation E → HeightEvent E → HeightObservation E → Prop where
  | tick (set : s.intervalSet = true) :
      ObservationStep options s .tick { s with queries := s.queries+1, inFlight := s.inFlight ++ [s.queries] }
  | start (flying : query ∈ s.inFlight) (first : s.startHeight = none) :
      ObservationStep options s (.reply query info) ((s.answered query).started options (options.heightOf info))
  | check (flying : query ∈ s.inFlight) (started : s.startHeight.isSome = true) :
      ObservationStep options s (.reply query info) ((s.answered query).checked options (options.heightOf info))
  | fail (flying : query ∈ s.inFlight) :
      ObservationStep options s (.fail query error) { s.answered query with promise := s.promise.settle (.rejected error) }

section Settling
variable {E : Type} {promise outcome : Observed E}

theorem settle_eq (settled : promise.settle outcome = result) : promise = result ∨ promise = .pending ∧ outcome = result := by
  cases promise with
  | pending => exact .inr ⟨rfl,settled⟩
  | resolved _ => exact .inl settled
  | rejected _ => exact .inl settled

theorem settle_settled (settled : outcome ≠ .pending) : promise.settle outcome ≠ .pending := by
  intro open_
  rcases settle_eq open_ with pending | none
  · rw [pending] at open_
    exact settled open_
  · exact settled none.2

end Settling

section Steps
variable {E : Type} {options : ObserveParams} {s next : HeightObservation E} {event : HeightEvent E}
  {before events : List (HeightEvent E)}

theorem observeChainHeight_step (stepped : observeChainHeight options s event = some next) : ObservationStep options s event next := by
  cases event with
  | tick =>
    simp only [observeChainHeight,Option.ite_none_right_eq_some,Option.some.injEq] at stepped
    obtain ⟨set,rfl⟩ := stepped
    exact .tick set
  | reply query info =>
    simp only [observeChainHeight,Option.ite_none_right_eq_some] at stepped
    obtain ⟨flying,stepped⟩ := stepped
    cases started : s.startHeight with
    | none =>
      rw [started] at stepped
      cases stepped
      exact .start flying started
    | some height =>
      rw [started] at stepped
      cases stepped
      exact .check flying (by rw [started]; rfl)
  | fail query error =>
    simp only [observeChainHeight,Option.ite_none_right_eq_some,Option.some.injEq] at stepped
    obtain ⟨flying,rfl⟩ := stepped
    exact .fail flying

-- What the promise and the interval owe to the events so far.
structure Watched (options : ObserveParams) (before : List (HeightEvent E)) (s : HeightObservation E) : Prop where
  resolved : ∀ height, s.promise = .resolved height →
    ∃ query info, .reply query info ∈ before ∧ options.height ≤ options.heightOf info
  rejected : ∀ error, s.promise = .rejected error → ∃ query, .fail query error ∈ before
  failed : ∀ query error, .fail query error ∈ before → s.promise ≠ .pending
  cleared : ∀ height, s.promise = .resolved height → s.startHeight.isSome = true ∧ s.intervalSet = false
  untimed : s.startHeight = none → s.intervalSet = false

theorem start_watched : Watched options [] (.start : HeightObservation E) where
  resolved _ settled := by cases settled
  rejected _ settled := by cases settled
  failed _ _ member := absurd member List.not_mem_nil
  cleared _ settled := by cases settled
  untimed _ := rfl

theorem Watched.more (watched : Watched options before s) (event : HeightEvent E) (plain : ∀ query error, event ≠ .fail query error)
    (same : next.promise = s.promise)
    (cleared : ∀ height, next.promise = .resolved height → next.startHeight.isSome = true ∧ next.intervalSet = false)
    (untimed : next.startHeight = none → next.intervalSet = false) : Watched options (before ++ [event]) next where
  resolved height settled := by
    obtain ⟨query,info,member,reached⟩ := watched.resolved height (same ▸ settled)
    exact ⟨query,info,List.mem_append_left _ member,reached⟩
  rejected error settled := by
    obtain ⟨query,member⟩ := watched.rejected error (same ▸ settled)
    exact ⟨query,List.mem_append_left _ member⟩
  failed query error member := by
    rcases List.mem_append.mp member with earlier | now
    · exact same ▸ watched.failed query error earlier
    · exact absurd (List.mem_singleton.mp now).symm (plain query error)
  cleared := cleared
  untimed := untimed

-- A reply at or above the target resolves the promise, if it is still open.
theorem Watched.resolve (watched : Watched options before s) (reached : options.height ≤ options.heightOf info)
    (settles : next.promise = s.promise.settle (.resolved height)) (started : next.startHeight.isSome = true)
    (cleared : next.intervalSet = false) : Watched options (before ++ [.reply query info]) next where
  resolved _ _ := ⟨query,info,List.mem_append_right _ (List.mem_singleton_self _),reached⟩
  rejected error settled := by
    rw [settles] at settled
    rcases settle_eq settled with earlier | now
    · obtain ⟨failed,member⟩ := watched.rejected error earlier
      exact ⟨failed,List.mem_append_left _ member⟩
    · cases now.2
  failed _ _ _ := settles ▸ settle_settled (by simp)
  cleared _ _ := ⟨started,cleared⟩
  untimed _ := cleared

theorem step_watched (watched : Watched options before s) (step : ObservationStep options s event next) :
    Watched options (before ++ [event]) next := by
  cases step with
  | tick set =>
    refine watched.more _ (by simp) ?_ ?_ ?_
    · rfl
    · intro height settled
      cases (watched.cleared height settled).2.symm.trans set
    · intro first
      cases (watched.untimed first).symm.trans set
  | @start query _ info flying first =>
    have unresolved (height : Int) : s.promise ≠ .resolved height := by
      intro settled
      have started := (watched.cleared height settled).1
      rw [first] at started
      cases started
    unfold HeightObservation.started
    split
    · rename_i reached
      exact watched.resolve reached rfl rfl (watched.untimed first)
    · refine watched.more _ (by simp) ?_ ?_ ?_
      · rfl
      · exact fun height settled => absurd settled (unresolved height)
      · intro none
        cases none
  | @check query _ info flying started =>
    unfold HeightObservation.checked
    split
    · rename_i reached
      exact watched.resolve reached rfl started rfl
    · refine watched.more _ (by simp) ?_ ?_ ?_
      · rfl
      · exact watched.cleared
      · exact watched.untimed
  | @fail query _ error flying =>
    refine ⟨?_,?_,?_,?_,watched.untimed⟩
    · intro height settled
      rcases settle_eq settled with earlier | now
      · obtain ⟨other,info,member,reached⟩ := watched.resolved height earlier
        exact ⟨other,info,List.mem_append_left _ member,reached⟩
      · cases now.2
    · intro other settled
      rcases settle_eq settled with earlier | now
      · obtain ⟨failed,member⟩ := watched.rejected other earlier
        exact ⟨failed,List.mem_append_left _ member⟩
      · cases now.2
        exact ⟨query,List.mem_append_right _ (List.mem_singleton_self _)⟩
    · exact fun _ _ _ => settle_settled (by simp)
    · intro height settled
      rcases settle_eq settled with earlier | now
      · exact watched.cleared height earlier
      · cases now.2

theorem ran_watched (ran : run (observeChainHeight options) .start events = some s) : Watched options events s :=
  run_history start_watched (fun _ _ _ _ _ stepped watched => step_watched watched (observeChainHeight_step stepped)) ran

-- What is asked of the function behind the events `before`, with those in
-- `later` still to come.
structure SafeAt (options : ObserveParams) (before later : List (HeightEvent E)) (s : HeightObservation E) : Prop where
  resolved : ∀ height, s.promise = .resolved height →
    ∃ query info, .reply query info ∈ before ∧ options.height ≤ options.heightOf info
  rejected : ∀ error, s.promise = .rejected error → ∃ query, .fail query error ∈ before
  stopped : s.promise ≠ .pending → ∀ rest, later ≠ .tick :: rest

theorem tick_set (possible : (run (observeChainHeight options) .start (before ++ .tick :: rest)).isSome)
    (ran : run (observeChainHeight options) .start before = some s) : s.intervalSet = true := by
  obtain ⟨next,stepped,_⟩ := takes_next possible ⟨before,rest,rfl,ran⟩
  cases observeChainHeight_step stepped with
  | tick set => exact set

-- A failed query leaves the interval set, so only the failures matter.
theorem chain_height_iff (possible : (run (observeChainHeight options) .start events).isSome) :
    (∀ before later s, events = before ++ later → run (observeChainHeight options) .start before = some s →
      SafeAt options before later s) ↔
    ∀ before later, events = before ++ .tick :: later → ∀ query error, .fail query error ∉ before := by
  constructor
  · intro safe before later split query error failed
    obtain ⟨s,ran⟩ := run_before (split ▸ possible)
    exact (safe before (.tick :: later) s split ran).stopped ((ran_watched ran).failed query error failed) later rfl
  · intro quiet before later s split ran
    have watched := ran_watched ran
    refine ⟨watched.resolved,watched.rejected,?_⟩
    intro settled rest ticks
    subst ticks
    have set := tick_set (split ▸ possible) ran
    cases promise : s.promise with
    | pending => exact settled promise
    | resolved height => cases (watched.cleared height promise).2.symm.trans set
    | rejected error =>
      obtain ⟨query,failed⟩ := watched.rejected error promise
      exact quiet before rest split query error failed

end Steps

namespace Sample

def finality : ObserveParams := ⟨10,true⟩

end Sample

theorem chain_height_sample :
    (∀ before later s, ([.reply 0 ⟨9,5⟩,.tick,.tick,.reply 2 ⟨12,10⟩,.fail 1 "closed"] : List (HeightEvent String)) = before ++ later →
      run (observeChainHeight Sample.finality) .start before = some s → SafeAt Sample.finality before later s) ↔
    ∀ before later, ([.reply 0 ⟨9,5⟩,.tick,.tick,.reply 2 ⟨12,10⟩,.fail 1 "closed"] : List (HeightEvent String)) =
      before ++ .tick :: later → ∀ query error, .fail query error ∉ before :=
  chain_height_iff (by decide)

theorem polls_after_rejection :
    run (observeChainHeight Sample.finality) .start [.reply 0 ⟨9,5⟩,.tick,.fail 1 "closed"] =
      some ⟨2,[],some 5,true,.rejected "closed"⟩ ∧
    run (observeChainHeight Sample.finality) .start [.reply 0 ⟨9,5⟩,.tick,.fail 1 "closed",.tick] =
      some ⟨3,[2],some 5,true,.rejected "closed"⟩ := by decide

end LiskMigrator
