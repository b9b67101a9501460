import LiskMigrator.Library.Interaction
import LiskMigrator.Library.Runs

namespace LiskMigrator.Monitor
open Interaction Outcome Runs

variable {S : Signature} {α β ε σ State : Type}

-- Every reply is what the world says to all that was asked before, the newest first.
def Answered (world : World S) : List (Event S) → Prop
  | [] => True
  | event :: earlier => event.reply = world earlier event.call ∧ Answered world earlier

theorem answered_append {world : World S} {more : List (Event S)} :
    Answered world (more ++ earlier) ↔ Answers world earlier more ∧ Answered world earlier := by
  induction more with
  | nil => exact ⟨fun answered => ⟨trivial,answered⟩,And.right⟩
  | cons event more ih =>
    change event.reply = world (more ++ earlier) event.call ∧ Answered world (more ++ earlier) ↔
      (event.reply = world (more ++ earlier) event.call ∧ Answers world earlier more) ∧ Answered world earlier
    rw [ih,and_assoc]

theorem answered_part {world : World S} (later : List (Event S)) (answered : Answered world (later ++ earlier)) : Answered world earlier :=
  (answered_append.mp answered).2

section Judgement
variable (world : World S) (step : State → Event S → Option State) (start : State)

-- An automaton that is shown all that the session asked of the world has come to
-- the state q.
structure Tracks (q : State) (s : Session S σ) : Prop where
  ran : run step start s.events.reverse = some q
  answered : Answered world s.events

-- From a state and variables of one kind the program asks only what the automaton
-- takes. How both stand then depends on how the program ends.
def Guides (before : State → σ → Prop) (x : Program S ε σ α) (normal : α → State → σ → Prop) (thrown : ε → State → σ → Prop) :
    Prop :=
  ∀ q s, Tracks world step start q s → before q s.store →
    Ends x s (fun a t => ∃ next, Tracks world step start next t ∧ normal a next t.store)
      (fun e t => ∃ next, Tracks world step start next t ∧ thrown e next t.store)

end Judgement

section Rules
variable {world : World S} {step : State → Event S → Option State} {start : State} {before : State → σ → Prop} {x : Program S ε σ α}
  {f : α → Program S ε σ β} {normal : α → State → σ → Prop} {thrown : ε → State → σ → Prop} {after : β → State → σ → Prop}

theorem tracks_start (store : σ) : Tracks world step start start ⟨[],store⟩ := ⟨rfl,trivial⟩

theorem tracks_event {s : Session S σ} {event : Event S} (tracks : Tracks world step start q s)
    (reply : event.reply = world s.events event.call) (taken : step q event = some next) (store : σ) :
    Tracks world step start next ⟨event :: s.events,store⟩ := by
  refine ⟨?_,reply,tracks.answered⟩
  rw [List.reverse_cons,run_snoc,tracks.ran]
  exact taken

theorem guides_pure {a : α} (holds : ∀ q store, before q store → normal a q store) :
    Guides world step start before (pure a : Program S ε σ α) normal thrown :=
  fun q s tracks given => ends_pure ⟨q,tracks,holds q s.store given⟩

theorem guides_throw {e : ε} (holds : ∀ q store, before q store → thrown e q store) :
    Guides world step start before (throw e : Program S ε σ α) normal thrown :=
  fun q s tracks given => ends_throw ⟨q,tracks,holds q s.store given⟩

theorem guides_bind (first : Guides world step start before x normal thrown) (next : ∀ a, Guides world step start (normal a) (f a) after thrown) :
    Guides world step start before (x >>= f) after thrown := by
  intro q s tracks given
  apply ends_bind (first q s tracks given)
  intro a t ended
  obtain ⟨middle,reached,held⟩ := ended
  exact next a middle t reached held

theorem guides_ite {condition : Prop} [Decidable condition] {y : Program S ε σ α}
    (yes : condition → Guides world step start before x normal thrown) (no : ¬ condition → Guides world step start before y normal thrown) :
    Guides world step start before (if condition then x else y) normal thrown :=
  fun q s tracks given => ends_ite (fun holds => yes holds q s tracks given) (fun fails => no fails q s tracks given)

theorem guides_handle {handler : ε → Program S ε σ α} (caught : ε → State → σ → Prop) (first : Guides world step start before x normal caught)
    (next : ∀ e, Guides world step start (caught e) (handler e) normal thrown) :
    Guides world step start before (handle x handler) normal thrown := by
  intro q s tracks given
  apply ends_handle _ (first q s tracks given)
  intro e t ended
  obtain ⟨middle,reached,held⟩ := ended
  exact next e middle t reached held

theorem guides_ask {answered : S.Reply call → State → σ → Prop}
    (taken : ∀ q store reply, before q store → ∃ next, step q ⟨call,reply⟩ = some next ∧ answered reply next store) :
    Guides world step start before (ask world call) answered thrown := by
  intro q s tracks given
  apply ends_ask
  intro reply replied
  obtain ⟨next,stepped,held⟩ := taken q s.store reply given
  exact ⟨next,tracks_event tracks replied stepped s.store,held⟩

theorem guides_update {written : Unit → State → σ → Prop} (g : σ → σ) (holds : ∀ q store, before q store → written () q (g store)) :
    Guides world step start before (update g : Program S ε σ Unit) written thrown :=
  fun q s tracks given => ends_update g ⟨q,⟨tracks.ran,tracks.answered⟩,holds q s.store given⟩

theorem guides_readStore {shown : σ → State → σ → Prop} (holds : ∀ q store, before q store → shown store q store) :
    Guides world step start before (readStore : Program S ε σ σ) shown thrown :=
  fun q s tracks given => ends_readStore ⟨q,tracks,holds q s.store given⟩

theorem guides_imp {before' : State → σ → Prop} {normal' : α → State → σ → Prop} {thrown' : ε → State → σ → Prop}
    (guides : Guides world step start before x normal thrown) (start' : ∀ q store, before' q store → before q store)
    (values : ∀ a q store, normal a q store → normal' a q store) (errors : ∀ e q store, thrown e q store → thrown' e q store) :
    Guides world step start before' x normal' thrown' := by
  intro q s tracks given
  apply ends_imp (guides q s tracks (start' q s.store given))
  · intro a t ended
    obtain ⟨next,reached,held⟩ := ended
    exact ⟨next,reached,values a next t.store held⟩
  · intro e t ended
    obtain ⟨next,reached,held⟩ := ended
    exact ⟨next,reached,errors e next t.store held⟩

-- What the state and the variables are not asked for may be known beforehand.
theorem guides_given {known : Prop} (guides : known → Guides world step start before x normal thrown) :
    Guides world step start (fun q store => known ∧ before q store) x normal thrown :=
  fun q s tracks given => guides given.1 q s tracks given.2

theorem guides_some {ι : Sort*} {some : ι → State → σ → Prop} (guides : ∀ i, Guides world step start (some i) x normal thrown) :
    Guides world step start (fun q store => ∃ i, some i q store) x normal thrown := by
  intro q s tracks given
  obtain ⟨i,held⟩ := given
  exact guides i q s tracks held

theorem guides_never : Guides world step start (fun _ _ => False) x normal thrown := fun _ _ _ never => never.elim

-- What a whole session asked is a run of the automaton, in whatever way it ended.
theorem guides_run {s : Session S σ} (guides : Guides world step start before x normal thrown) (tracks : Tracks world step start q s)
    (given : before q s.store) : ∃ next, Tracks world step start next (left (x s)) := by
  have ended : Ends x s (fun _ t => ∃ next, Tracks world step start next t) (fun _ t => ∃ next, Tracks world step start next t) := by
    apply ends_imp (guides q s tracks given)
    · intro a t ended
      obtain ⟨next,reached,_⟩ := ended
      exact ⟨next,reached⟩
    · intro e t ended
      obtain ⟨next,reached,_⟩ := ended
      exact ⟨next,reached⟩
  exact ends_left ended

end Rules
end LiskMigrator.Monitor
