import LiskMigrator.Utils.TarBall

namespace LiskMigrator
open Runs

namespace Extraction
variable {Entry : Type}

-- What a reader of the destination directory relies on once the promise resolves.
def Complete (archive : List Entry) (s : Extraction Entry) : Prop :=
  (s.promise = .resolved → s.extractor = .finished ∧ ∀ entry ∈ archive, entry ∈ s.destDir) ∧
    (s.extractor = .failed → s.promise ≠ .resolved)

-- The timer runs only between the end of the source and its firing, and the
-- promise stays open until then.
structure Timed (s : Extraction Entry) : Prop where
  opened : s.source = .reading → s.promise = .pending ∧ s.timerSet = false
  waiting : s.timerSet = true → s.promise = .pending

def Written (archive : List Entry) (s : Extraction Entry) : Prop := s.extractor = .finished ∧ ∀ entry ∈ archive, entry ∈ s.destDir

theorem settle_pending {promise outcome : Settlement} (pending : promise = .pending) : promise.settle outcome = outcome := by
  simp [Settlement.settle,pending]

theorem written_complete {s : Extraction Entry} (written : s.promise = .resolved → s.Written archive) : Complete archive s := by
  refine ⟨written,?_⟩
  intro failed resolved
  cases failed.symm.trans (written resolved).1

theorem start_timed (archive : List Entry) : Timed (start archive) :=
  ⟨fun _ => ⟨rfl,rfl⟩,fun set => by cases set⟩

end Extraction

-- The events one by one, as rules.
inductive ExtractionStep {Entry : Type} [DecidableEq Entry] : Extraction Entry → ExtractionEvent Entry → Extraction Entry → Prop where
  | sourceEnd (alive : s.extractor ≠ .failed) (reading : s.source = .reading) :
      ExtractionStep s .sourceEnd { s with source := .ended, timerSet := true }
  | sourceError (alive : s.extractor ≠ .failed) (reading : s.source = .reading) :
      ExtractionStep s .sourceError { s with source := .failed, promise := s.promise.settle .rejected }
  | timer (alive : s.extractor ≠ .failed) (set : s.timerSet = true) :
      ExtractionStep s .timer { s with timerSet := false, promise := s.promise.settle .resolved }
  | write (running : s.extractor = .running) (left : entry ∈ s.remaining) :
      ExtractionStep s (.write entry) { s with remaining := s.remaining.erase entry, destDir := s.destDir ++ [entry] }
  | finish (running : s.extractor = .running) : ExtractionStep s .finish { s with extractor := .finished }
  | fail (running : s.extractor = .running) : ExtractionStep s .fail { s with extractor := .failed }

section Steps
variable {Entry : Type} [DecidableEq Entry] {s next : Extraction Entry} {event : ExtractionEvent Entry}

theorem extractTarBall_step (stepped : extractTarBall s event = some next) : ExtractionStep s event next := by
  cases event with
  | sourceEnd =>
    simp only [extractTarBall,Option.ite_none_right_eq_some,Option.some.injEq] at stepped
    obtain ⟨⟨alive,reading⟩,rfl⟩ := stepped
    exact .sourceEnd alive reading
  | sourceError =>
    simp only [extractTarBall,Option.ite_none_right_eq_some,Option.some.injEq] at stepped
    obtain ⟨⟨alive,reading⟩,rfl⟩ := stepped
    exact .sourceError alive reading
  | timer =>
    simp only [extractTarBall,Option.ite_none_right_eq_some,Option.some.injEq] at stepped
    obtain ⟨⟨alive,set⟩,rfl⟩ := stepped
    exact .timer alive set
  | write entry =>
    simp only [extractTarBall,Option.ite_none_right_eq_some,Option.some.injEq] at stepped
    obtain ⟨⟨running,left⟩,rfl⟩ := stepped
    exact .write running left
  | finish =>
    simp only [extractTarBall,Option.ite_none_right_eq_some,Option.some.injEq] at stepped
    obtain ⟨running,rfl⟩ := stepped
    exact .finish running
  | fail =>
    simp only [extractTarBall,Option.ite_none_right_eq_some,Option.some.injEq] at stepped
    obtain ⟨running,rfl⟩ := stepped
    exact .fail running

theorem step_finished (step : ExtractionStep s event next) :
    next.extractor = .finished ↔ s.extractor = .finished ∨ event = .finish := by
  cases step with
  | sourceEnd _ _ => simp
  | sourceError _ _ => simp
  | timer _ _ => simp
  | write _ _ => simp
  | finish _ => simp
  | fail running => simp [running]

theorem step_destDir (step : ExtractionStep s event next) (entry : Entry) :
    entry ∈ next.destDir ↔ entry ∈ s.destDir ∨ event = .write entry := by
  cases step with
  | sourceEnd _ _ => simp
  | sourceError _ _ => simp
  | timer _ _ => simp
  | write _ _ => simp [eq_comm]
  | finish _ => simp
  | fail _ => simp

theorem step_timed (timed : s.Timed) (step : ExtractionStep s event next) : next.Timed := by
  cases step with
  | sourceEnd _ reading => exact ⟨fun again => (by cases again),fun _ => (timed.opened reading).1⟩
  | sourceError _ reading =>
    refine ⟨fun again => (by cases again),fun set => ?_⟩
    cases (timed.opened reading).2.symm.trans set
  | timer _ set =>
    refine ⟨fun reading => ?_,fun again => (by cases again)⟩
    cases (timed.opened reading).2.symm.trans set
  | write _ _ => exact ⟨timed.opened,timed.waiting⟩
  | finish _ => exact ⟨timed.opened,timed.waiting⟩
  | fail _ => exact ⟨timed.opened,timed.waiting⟩

-- What has been written stays, and an extractor that has finished does not fail.
theorem step_written (written : s.Written archive) (step : ExtractionStep s event next) : next.Written archive :=
  ⟨(step_finished step).mpr (.inl written.1),fun entry member => (step_destDir step entry).mpr (.inl (written.2 entry member))⟩

-- Only the timer resolves the promise.
theorem step_timer (timed : s.Timed) (step : ExtractionStep s event next) (resolved : next.promise = .resolved) :
    s.promise = .resolved ∨ event = .timer := by
  cases step with
  | sourceEnd _ _ => exact .inl resolved
  | sourceError _ reading =>
    rw [Extraction.settle_pending (timed.opened reading).1] at resolved
    cases resolved
  | timer _ _ => exact .inr rfl
  | write _ _ => exact .inl resolved
  | finish _ => exact .inl resolved
  | fail _ => exact .inl resolved

end Steps

section Order
variable {Entry : Type} [DecidableEq Entry] {archive : List Entry} {events : List (ExtractionEvent Entry)}

-- The extractor has ended its work, and every entry of the archive is written.
def AllWritten (archive : List Entry) (events : List (ExtractionEvent Entry)) : Prop :=
  .finish ∈ events ∧ ∀ entry ∈ archive, .write entry ∈ events

theorem reached_timed (reached : Reaches extractTarBall (.start archive) events s) : s.Timed :=
  reaches_invariant (Extraction.start_timed archive)
    (fun _ _ _ _ stepped timed => step_timed timed (extractTarBall_step stepped)) reached

theorem takes_reached (takes : Takes extractTarBall (.start archive) events s event) :
    Reaches extractTarBall (.start archive) events s := by
  obtain ⟨before,later,same,ran⟩ := takes
  exact ⟨before,event :: later,same,ran⟩

theorem ran_finished {s : Extraction Entry} (ran : run extractTarBall (.start archive) events = some s) :
    s.extractor = .finished ↔ .finish ∈ events := by
  apply run_history _ _ ran
  · simp [Extraction.start]
  · intro before t event next _ stepped finished
    rw [step_finished (extractTarBall_step stepped),finished,List.mem_append,List.mem_singleton,@eq_comm _ event]

theorem ran_destDir {s : Extraction Entry} (ran : run extractTarBall (.start archive) events = some s) (entry : Entry) :
    entry ∈ s.destDir ↔ .write entry ∈ events := by
  apply run_history _ _ ran
  · simp [Extraction.start]
  · intro before t event next _ stepped written
    rw [step_destDir (extractTarBall_step stepped),written,List.mem_append,List.mem_singleton,@eq_comm _ event]

theorem ran_written {s : Extraction Entry} (ran : run extractTarBall (.start archive) events = some s) :
    s.Written archive ↔ AllWritten archive events :=
  and_congr (ran_finished ran) (forall₂_congr (fun entry _ => ran_destDir ran entry))

theorem reached_written (late : ∀ s, Takes extractTarBall (.start archive) events s .timer → s.Written archive)
    (reached : Reaches extractTarBall (.start archive) events s) : s.promise = .resolved → s.Written archive := by
  apply reaches_invariant _ _ reached
  · intro resolved
    cases resolved
  · intro t event next takes stepped written resolved
    have step := extractTarBall_step stepped
    rcases step_timer (reached_timed (takes_reached takes)) step resolved with before | rfl
    · exact step_written (written before) step
    · exact step_written (late t takes) step

end Order

theorem extraction_complete_iff {Entry : Type} [DecidableEq Entry] {archive : List Entry} {events : List (ExtractionEvent Entry)}
    (possible : (run extractTarBall (.start archive) events).isSome) :
    (∀ s, Reaches extractTarBall (.start archive) events s → s.Complete archive) ↔
      ∀ before later, events = before ++ .timer :: later → AllWritten archive before := by
  constructor
  · intro complete before later split
    obtain ⟨s,ran⟩ := run_before (split ▸ possible)
    have takes : Takes extractTarBall (.start archive) events s .timer := ⟨before,later,split,ran⟩
    obtain ⟨next,stepped,reached⟩ := takes_next possible takes
    have waiting := (reached_timed (takes_reached takes)).waiting
    have written := (complete next reached).1
    apply (ran_written ran).mp
    cases extractTarBall_step stepped with
    | timer _ set => exact written (Extraction.settle_pending (waiting set))
  · intro late s reached
    apply Extraction.written_complete
    apply reached_written _ reached
    intro t given
    obtain ⟨before,later,split,ran⟩ := given
    exact (ran_written ran).mpr (late before later split)

theorem extraction_complete_sample :
    (∀ s, Reaches extractTarBall (.start ["CURRENT","MANIFEST"])
        [.write "CURRENT",.sourceEnd,.write "MANIFEST",.finish,.timer] s → s.Complete ["CURRENT","MANIFEST"]) ↔
      ∀ before later, ([.write "CURRENT",.sourceEnd,.write "MANIFEST",.finish,.timer] : List (ExtractionEvent String)) =
        before ++ .timer :: later → AllWritten ["CURRENT","MANIFEST"] before :=
  extraction_complete_iff (by decide)

-- The timer is early, or the extractor has left an entry out.
theorem resolved_before_written :
    (run extractTarBall (.start ["CURRENT","MANIFEST"]) [.write "CURRENT",.sourceEnd,.timer] =
        some ⟨.ended,false,.running,["MANIFEST"],["CURRENT"],.resolved⟩ ∧
      ¬ Extraction.Complete ["CURRENT","MANIFEST"] ⟨.ended,false,.running,["MANIFEST"],["CURRENT"],.resolved⟩) ∧
    (run extractTarBall (.start ["CURRENT","MANIFEST"]) [.write "CURRENT",.sourceEnd,.finish,.timer] =
        some ⟨.ended,false,.finished,["MANIFEST"],["CURRENT"],.resolved⟩ ∧
      ¬ Extraction.Complete ["CURRENT","MANIFEST"] ⟨.ended,false,.finished,["MANIFEST"],["CURRENT"],.resolved⟩) := by
  refine ⟨⟨by decide,?_⟩,⟨by decide,?_⟩⟩
  · intro complete
    cases (complete.1 rfl).1
  · intro complete
    exact absurd ((complete.1 rfl).2 "MANIFEST" (by simp)) (by simp)

end LiskMigrator
