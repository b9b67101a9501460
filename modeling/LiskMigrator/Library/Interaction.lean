import LiskMigrator.Library.Outcome

namespace LiskMigrator.Interaction
open Outcome

-- A program asks the world; the world may answer by all that it was asked before.
structure Signature where
  Call : Type
  Reply : Call → Type

structure Event (S : Signature) where
  call : S.Call
  reply : S.Reply call

abbrev World (S : Signature) := List (Event S) → (call : S.Call) → S.Reply call

-- What was asked and answered, the newest first, and the program's variables.
structure Session (S : Signature) (σ : Type) where
  events : List (Event S)
  store : σ

abbrev Program (S : Signature) (ε σ α : Type) := Step ε (Session S σ) α

variable {S : Signature} {α β ε σ τ : Type}

def ask (world : World S) (call : S.Call) : Program S ε σ (S.Reply call) := fun s =>
  let reply := world s.events call
  .ok reply ⟨⟨call,reply⟩ :: s.events,s.store⟩

def update (f : σ → σ) : Program S ε σ Unit := fun s => .ok () ⟨s.events,f s.store⟩

def readStore : Program S ε σ σ := fun s => .ok s.store s

-- try { x } catch (e) { handler(e) }
def handle (x : Program S ε σ α) (handler : ε → Program S ε σ α) : Program S ε σ α := fun s =>
  match x s with
  | .ok a t => .ok a t
  | .error e t => handler e t

-- What was asked behind `asked`, the newest first, has been answered as the world does.
def Answers (world : World S) (asked : List (Event S)) : List (Event S) → Prop
  | [] => True
  | event :: more => event.reply = world (more ++ asked) event.call ∧ Answers world asked more

-- How a program may end: in a value or with an exception, either in some state.
def Ends (x : Program S ε σ α) (s : Session S σ) (normal : α → Session S σ → Prop) (thrown : ε → Session S σ → Prop) : Prop :=
  match x s with
  | .ok a t => normal a t
  | .error e t => thrown e t

section Rules
variable {x : Program S ε σ α} {f : α → Program S ε σ β} {s : Session S σ}
  {normal : α → Session S σ → Prop} {thrown : ε → Session S σ → Prop} {after : β → Session S σ → Prop}

theorem ends_pure (holds : normal a s) : Ends (pure a : Program S ε σ α) s normal thrown := holds

theorem ends_throw (holds : thrown e s) : Ends (throw e : Program S ε σ α) s normal thrown := holds

theorem ends_bind (first : Ends x s normal thrown) (next : ∀ a t, normal a t → Ends (f a) t after thrown) :
    Ends (x >>= f) s after thrown := by
  unfold Ends at first ⊢
  rw [step_bind]
  cases ran : x s with
  | ok a t =>
    rw [ran] at first
    exact next a t first
  | error e t =>
    rw [ran] at first
    exact first

theorem ends_ite {condition : Prop} [Decidable condition] {y : Program S ε σ α} (yes : condition → Ends x s normal thrown)
    (no : ¬ condition → Ends y s normal thrown) : Ends (if condition then x else y) s normal thrown := by
  by_cases holds : condition
  · rw [if_pos holds]
    exact yes holds
  · rw [if_neg holds]
    exact no holds

theorem ends_imp {normal' : α → Session S σ → Prop} {thrown' : ε → Session S σ → Prop} (ends : Ends x s normal thrown)
    (values : ∀ a t, normal a t → normal' a t) (errors : ∀ e t, thrown e t → thrown' e t) : Ends x s normal' thrown' := by
  unfold Ends at ends ⊢
  cases ran : x s with
  | ok a t =>
    rw [ran] at ends
    exact values a t ends
  | error e t =>
    rw [ran] at ends
    exact errors e t ends

theorem ends_always (values : ∀ a t, normal a t) (errors : ∀ e t, thrown e t) : Ends x s normal thrown := by
  unfold Ends
  cases x s with
  | ok a t => exact values a t
  | error e t => exact errors e t

theorem ends_any : Ends x s (fun _ _ => True) (fun _ _ => True) := ends_always (fun _ _ => trivial) (fun _ _ => trivial)

theorem ends_and {normal' : α → Session S σ → Prop} {thrown' : ε → Session S σ → Prop} (one : Ends x s normal thrown)
    (two : Ends x s normal' thrown') : Ends x s (fun a t => normal a t ∧ normal' a t) (fun e t => thrown e t ∧ thrown' e t) := by
  unfold Ends at one two ⊢
  cases ran : x s with
  | ok a t =>
    rw [ran] at one two
    exact ⟨one,two⟩
  | error e t =>
    rw [ran] at one two
    exact ⟨one,two⟩

theorem ends_handle {handler : ε → Program S ε σ α} (caught : ε → Session S σ → Prop) (first : Ends x s normal caught)
    (next : ∀ e t, caught e t → Ends (handler e) t normal thrown) : Ends (handle x handler) s normal thrown := by
  unfold Ends handle at *
  cases ran : x s with
  | ok a t =>
    rw [ran] at first
    exact first
  | error e t =>
    rw [ran] at first
    exact next e t first

theorem ends_ask {answered : S.Reply call → Session S σ → Prop} (world : World S)
    (holds : ∀ reply, reply = world s.events call → answered reply ⟨⟨call,reply⟩ :: s.events,s.store⟩) :
    Ends (ask world call) s answered thrown := holds _ rfl

theorem ask_ok {world : World S} {call : S.Call} {reply : S.Reply call} :
    (ask world call : Program S ε σ _) s = .ok reply t ↔ reply = world s.events call ∧ t = ⟨⟨call,reply⟩ :: s.events,s.store⟩ := by
  constructor
  · intro asked
    cases asked
    exact ⟨rfl,rfl⟩
  · intro answered
    obtain ⟨rfl,rfl⟩ := answered
    rfl

theorem ends_update {written : Unit → Session S σ → Prop} (g : σ → σ) (holds : written () ⟨s.events,g s.store⟩) :
    Ends (update g) s written thrown := holds

theorem ends_readStore {shown : σ → Session S σ → Prop} (holds : shown s.store s) : Ends readStore s shown thrown := holds

-- What holds of the last session, however the program ends.
theorem ends_left {holds : Session S σ → Prop} (ends : Ends x s (fun _ t => holds t) (fun _ t => holds t)) :
    holds (left (x s)) := by
  unfold Ends at ends
  cases ran : x s with
  | ok a t =>
    rw [ran] at ends
    exact ends
  | error e t =>
    rw [ran] at ends
    exact ends

theorem ends_never (ends : Ends x s (fun _ _ => False) (fun _ _ => False)) : False :=
  (ends_left ends : (fun _ => False) _)

theorem ends_ok (ends : Ends x s normal thrown) (ran : x s = .ok a t) : normal a t := by
  unfold Ends at ends
  rw [ran] at ends
  exact ends

theorem ends_error (ends : Ends x s normal thrown) (ran : x s = .error e t) : thrown e t := by
  unfold Ends at ends
  rw [ran] at ends
  exact ends

end Rules

-- The session goes on with events of one kind, and the part of the variables
-- that `view` shows stays as it was.
structure Follows (may : Event S → Prop) (view : σ → τ) (s t : Session S σ) : Prop where
  events : ∃ more, t.events = more ++ s.events ∧ ∀ event ∈ more, may event
  store : view t.store = view s.store

-- A program that, however it ends, has done no more than that; what it throws
-- is of one kind, too.
def Keeps (may : Event S → Prop) (view : σ → τ) (fails : ε → Prop) (x : Program S ε σ α) : Prop :=
  ∀ s, Ends x s (fun _ t => Follows may view s t) (fun e t => Follows may view s t ∧ fails e)

section Frames
variable {may : Event S → Prop} {view : σ → τ} {fails : ε → Prop} {x : Program S ε σ α} {f : α → Program S ε σ β}
  {s middle t : Session S σ}

theorem Follows.refl (s : Session S σ) : Follows may view s s := ⟨⟨[],rfl,by simp⟩,rfl⟩

theorem Follows.trans (first : Follows may view s middle) (second : Follows may view middle t) : Follows may view s t := by
  obtain ⟨⟨one,oneSplit,oneKind⟩,oneStore⟩ := first
  obtain ⟨⟨two,twoSplit,twoKind⟩,twoStore⟩ := second
  refine ⟨⟨two ++ one,by rw [twoSplit,oneSplit,List.append_assoc],?_⟩,twoStore.trans oneStore⟩
  intro event member
  rcases List.mem_append.mp member with later | earlier
  · exact twoKind event later
  · exact oneKind event earlier

theorem Follows.imp {may' : Event S → Prop} (follows : Follows may view s t) (kind : ∀ event, may event → may' event) :
    Follows may' view s t := by
  obtain ⟨⟨more,split,kinds⟩,store⟩ := follows
  exact ⟨⟨more,split,fun event member => kind event (kinds event member)⟩,store⟩

theorem Follows.mem (follows : Follows may view s t) (member : event ∈ s.events) : event ∈ t.events := by
  obtain ⟨⟨more,split,_⟩,_⟩ := follows
  exact split ▸ List.mem_append_right more member

theorem Follows.kinds (follows : Follows may view s t) (member : event ∈ t.events) : may event ∨ event ∈ s.events := by
  obtain ⟨⟨more,split,kind⟩,_⟩ := follows
  rcases List.mem_append.mp (split ▸ member) with later | earlier
  · exact .inl (kind event later)
  · exact .inr earlier

theorem keeps_pure (a : α) : Keeps may view fails (pure a : Program S ε σ α) := fun s => Follows.refl s

theorem keeps_throw (holds : fails e) : Keeps may view fails (throw e : Program S ε σ α) := fun s => ⟨Follows.refl s,holds⟩

theorem keeps_bind (first : Keeps may view fails x) (next : ∀ a, Keeps may view fails (f a)) :
    Keeps may view fails (x >>= f) := by
  intro s
  refine ends_bind (first s) ?_
  intro a t reached
  apply ends_imp (next a t)
  · intro b u further
    exact reached.trans further
  · intro e u further
    exact ⟨reached.trans further.1,further.2⟩

theorem keeps_ask (world : World S) (call : S.Call) (kind : ∀ reply, may ⟨call,reply⟩) :
    Keeps may view fails (ask world call) := by
  intro s
  refine ends_ask world (fun reply _ => ⟨⟨[⟨call,reply⟩],rfl,?_⟩,rfl⟩)
  intro event member
  cases List.mem_singleton.mp member
  exact kind reply

theorem keeps_update (g : σ → σ) (same : ∀ store, view (g store) = view store) :
    Keeps may view fails (update g : Program S ε σ Unit) := fun s => ⟨⟨[],rfl,by simp⟩,same s.store⟩

theorem keeps_readStore : Keeps may view fails (readStore : Program S ε σ σ) := fun s => Follows.refl s

-- A program whose exceptions are caught, or caught and thrown anew.
theorem keeps_handle {handler : ε → Program S ε σ α} {caught : ε → Prop} (first : Keeps may view caught x)
    (next : ∀ e, caught e → Keeps may view fails (handler e)) : Keeps may view fails (handle x handler) := by
  intro s
  apply ends_handle _ (first s)
  intro e t reached
  apply ends_imp (next e reached.2 t)
  · intro a u further
    exact reached.1.trans further
  · intro e u further
    exact ⟨reached.1.trans further.1,further.2⟩

theorem keeps_ite {condition : Prop} [Decidable condition] {y : Program S ε σ α} (yes : condition → Keeps may view fails x)
    (no : ¬ condition → Keeps may view fails y) : Keeps may view fails (if condition then x else y) :=
  fun s => ends_ite (fun holds => yes holds s) (fun fails => no fails s)

theorem keeps_imp {may' : Event S → Prop} {fails' : ε → Prop} (keeps : Keeps may view fails x)
    (kind : ∀ event, may event → may' event) (errors : ∀ e, fails e → fails' e) : Keeps may' view fails' x := by
  intro s
  apply ends_imp (keeps s)
  · intro a t follows
    exact follows.imp kind
  · intro e t follows
    exact ⟨follows.1.imp kind,errors e follows.2⟩

-- Of the variables less may be shown.
theorem Follows.shown {shown : σ → ρ} (follows : Follows may view s t) (same : ∀ a b, view a = view b → shown a = shown b) :
    Follows may shown s t := ⟨follows.events,same _ _ follows.store⟩

theorem keeps_shown {shown : σ → ρ} (keeps : Keeps may view fails x) (same : ∀ a b, view a = view b → shown a = shown b) :
    Keeps may shown fails x := by
  intro s
  apply ends_imp (keeps s)
  · exact fun _ _ follows => follows.shown same
  · exact fun _ _ failed => ⟨failed.1.shown same,failed.2⟩

end Frames

-- A program that keeps what holds of the session, however it ends.
def Sustains (holds : Session S σ → Prop) (x : Program S ε σ α) : Prop := ∀ s, holds s → Ends x s (fun _ t => holds t) (fun _ t => holds t)

section Sustained
variable {holds : Session S σ → Prop} {x : Program S ε σ α} {f : α → Program S ε σ β}

theorem sustains_pure (a : α) : Sustains holds (pure a : Program S ε σ α) := fun _ held => ends_pure held

theorem sustains_throw (e : ε) : Sustains holds (throw e : Program S ε σ α) := fun _ held => ends_throw held

theorem sustains_bind (first : Sustains holds x) (next : ∀ a, Sustains holds (f a)) : Sustains holds (x >>= f) :=
  fun s held => ends_bind (first s held) next

theorem sustains_ite {condition : Prop} [Decidable condition] {y : Program S ε σ α} (yes : Sustains holds x) (no : Sustains holds y) :
    Sustains holds (if condition then x else y) := fun s held => ends_ite (fun _ => yes s held) (fun _ => no s held)

theorem sustains_handle {handler : ε → Program S ε σ α} (first : Sustains holds x) (next : ∀ e, Sustains holds (handler e)) :
    Sustains holds (handle x handler) := fun s held => ends_handle _ (first s held) next

theorem sustains_ask (world : World S) (call : S.Call)
    (kept : ∀ s reply, holds s → holds ⟨⟨call,reply⟩ :: s.events,s.store⟩) : Sustains holds (ask world call : Program S ε σ _) :=
  fun s held => ends_ask world (fun reply _ => kept s reply held)

theorem sustains_update (g : σ → σ) (kept : ∀ s, holds s → holds ⟨s.events,g s.store⟩) : Sustains holds (update g : Program S ε σ Unit) :=
  fun s held => ends_update g (kept s held)

theorem sustains_readStore : Sustains holds (readStore : Program S ε σ σ) := fun _ held => ends_readStore held

end Sustained
end LiskMigrator.Interaction
