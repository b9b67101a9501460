import Mathlib.Data.List.Induction

namespace LiskMigrator.Runs
variable {State Event : Type} (step : State → Event → Option State)

-- A run of a system whose step refuses the events that cannot occur.
def run : State → List Event → Option State
  | s,[] => some s
  | s,event :: rest => (step s event).bind (run · rest)

-- The run passes through the state t, or takes the event from it.
def Reaches (s : State) (events : List Event) (t : State) : Prop :=
  ∃ before later, events = before ++ later ∧ run step s before = some t

def Takes (s : State) (events : List Event) (t : State) (event : Event) : Prop :=
  ∃ before later, events = before ++ event :: later ∧ run step s before = some t

variable {step} {s t : State} {events : List Event}

theorem run_append (before later : List Event) : run step s (before ++ later) = (run step s before).bind (run step · later) := by
  induction before generalizing s with
  | nil => rfl
  | cons event rest ih =>
    simp only [List.cons_append,run]
    cases step s event with
    | none => rfl
    | some next => exact ih

theorem run_snoc (before : List Event) (event : Event) :
    run step s (before ++ [event]) = (run step s before).bind (step · event) := by
  rw [run_append]
  cases run step s before with
  | none => rfl
  | some middle => simp [run]

-- Every state is reached by the events before it, and the run goes on from it.
theorem takes_next (possible : (run step s events).isSome) (takes : Takes step s events t event) :
    ∃ next, step t event = some next ∧ Reaches step s events next := by
  obtain ⟨before,later,rfl,ran⟩ := takes
  rw [run_append,ran] at possible
  cases stepped : step t event with
  | none => simp [run,stepped] at possible
  | some next =>
    refine ⟨next,rfl,before ++ [event],later,by simp,?_⟩
    rw [run_snoc,ran]
    exact stepped

-- What holds at the start and survives every event holds of the state that a run
-- ends in and of the events that led there.
theorem run_history {Holds : List Event → State → Prop} (start : Holds [] s)
    (kept : ∀ before t event next, run step s before = some t → step t event = some next → Holds before t →
      Holds (before ++ [event]) next)
    (ran : run step s events = some t) : Holds events t := by
  induction events using List.reverseRecOn generalizing t with
  | nil =>
    cases Option.some.inj ran
    exact start
  | append_singleton before event ih =>
    rw [run_snoc] at ran
    cases earlier : run step s before with
    | none => simp [earlier] at ran
    | some middle =>
      simp only [earlier,Option.bind_some] at ran
      exact kept before middle event t earlier ran (ih earlier)

-- The invariant rule: what holds at the start and survives every event that the
-- run takes holds in every state it reaches.
theorem reaches_invariant {Holds : State → Prop} (start : Holds s)
    (kept : ∀ t event next, Takes step s events t event → step t event = some next → Holds t → Holds next)
    (reached : Reaches step s events t) : Holds t := by
  obtain ⟨before,later,split,ran⟩ := reached
  have held : ∀ later, events = before ++ later → Holds t := by
    apply run_history _ _ ran
    · exact fun _ _ => start
    · intro before t event next earlier stepped held later split
      rw [List.append_assoc,List.singleton_append] at split
      exact kept t event next ⟨before,later,split,earlier⟩ stepped (held (event :: later) split)
  exact held later split

theorem run_before (possible : (run step s (before ++ later)).isSome) : ∃ t, run step s before = some t := by
  rw [run_append] at possible
  cases ran : run step s before with
  | none => simp [ran] at possible
  | some t => exact ⟨t,rfl⟩

-- The event comes behind events of one kind.
def Behind (kind : List Event → Prop) (event : Event) (events : List Event) : Prop :=
  ∃ before later, events = before ++ event :: later ∧ kind before

theorem behind_snoc {kind : List Event → Prop} {made event : Event} :
    Behind kind made (events ++ [event]) ↔ Behind kind made events ∨ event = made ∧ kind events := by
  constructor
  · rintro ⟨before,later,split,held⟩
    rcases List.eq_nil_or_concat later with rfl | ⟨rest,last,rfl⟩
    · obtain ⟨rfl,same⟩ := List.append_inj' split rfl
      exact .inr ⟨List.singleton_inj.mp same,held⟩
    · rw [List.concat_eq_append,← List.cons_append,← List.append_assoc] at split
      exact .inl ⟨before,rest,(List.append_inj' split rfl).1,held⟩
  · rintro (⟨before,later,rfl,held⟩ | ⟨rfl,held⟩)
    · exact ⟨before,later ++ [event],by simp,held⟩
    · exact ⟨events,[],rfl,held⟩

end LiskMigrator.Runs
