import LiskMigrator.Run

namespace LiskMigrator
open Interaction

def isPrompt : Event migrator → Bool
  | ⟨.prompt,_⟩ => true
  | _ => false

-- How often the user was asked for flags.
def asked (events : List (Event migrator)) : Nat := events.countP isPrompt

-- From `s` on, the user customizes the start command, gives the answers u 0, u 1
-- and so on, and the help lists the flags in `allowed`.
structure Dialogue (world : World migrator) (allowed : List String) (u : Nat → String) (s : Session migrator Store) : Prop where
  customizes : ∀ command, world s.events (.confirm (.customizeStartCommand command)) = .ok true
  answers : ∀ events i, asked events = asked s.events+i → world events .prompt = .ok (u i)
  help : ∀ events, ∃ stdout, world events (.exec .liskCoreStartHelp) = .ok stdout ∧ allowedFlagsArray stdout = allowed

-- The command holds the first answer that is accepted, none of the answers was
-- asked for in vain, and the command is recorded.
def FirstAccepted (allowed : List String) (u : Nat → String) (network : String) (s : Session migrator Store)
    (command : String) (t : Session migrator Store) : Prop :=
  ∃ i, validateStartCommandFlags allowed (u i) = true ∧ (∀ j < i, validateStartCommandFlags allowed (u j) = false) ∧
    command = "lisk-core start --network " ++ network ++ " " ++ u i ∧ asked t.events = asked s.events+i+1 ∧
    t.store.liskCoreStartCommand = some command

-- All the answers that were asked for are refused, and nothing is recorded.
def AllRefused (allowed : List String) (u : Nat → String) (s t : Session migrator Store) : Prop :=
  (∀ i, asked s.events+i < asked t.events → validateStartCommandFlags allowed (u i) = false) ∧
    t.store.liskCoreStartCommand = s.store.liskCoreStartCommand

section Loop
variable {world : World migrator} {allowed : List String} {u : Nat → String} {s t : Session migrator Store}

-- How the loop leaves the tries from k to the bound: with the first answer that
-- it accepts, or with an answer more than it looks at.
inductive Tried (allowed : List String) (u : Nat → String) (network : String) (s : Session migrator Store) (k bound : Nat)
    (command : String) (t : Session migrator Store) : Prop where
  | accepted (i : Nat) (start : k ≤ i) (below : i < bound) (accepts : validateStartCommandFlags allowed (u i) = true)
      (first : ∀ j, k ≤ j → j < i → validateStartCommandFlags allowed (u j) = false)
      (built : command = baseStartCommand network ++ " " ++ u i) (counted : asked t.events = asked s.events+i+1)
  | refused (none : ∀ i, k ≤ i → i < bound → validateStartCommandFlags allowed (u i) = false)
      (built : command = baseStartCommand network) (counted : asked t.events = asked s.events+bound+1)

theorem Tried.earlier (tried : Tried allowed u network s (k+1) bound command t)
    (refused : validateStartCommandFlags allowed (u k) = false) : Tried allowed u network s k bound command t := by
  cases tried with
  | accepted i start limit accepts first built counted =>
    refine .accepted i (by omega) limit accepts ?_ built counted
    intro j low high
    by_cases same : j = k
    · exact same ▸ refused
    · exact first j (by omega) high
  | refused none built counted =>
    refine .refused ?_ built counted
    intro i low high
    by_cases same : i = k
    · exact same ▸ refused
    · exact none i (by omega) high

theorem prompt_ends (dialogue : Dialogue world allowed u s) (counted : asked t.events = asked s.events+k) :
    Ends (settled (ask world .prompt)) t (fun input v => input = u k ∧ v.store = t.store ∧ asked v.events = asked s.events+k+1)
      (fun _ _ => False) := by
  have answered := dialogue.answers t.events k counted
  apply ends_settled
  apply ends_ask
  intro reply replied
  rw [answered] at replied
  cases replied
  have more : asked (⟨.prompt,.ok (u k)⟩ :: t.events) = asked t.events+1 := List.countP_cons_of_pos rfl
  exact ⟨rfl,rfl,by rw [more,counted]⟩

theorem customize_ends (dialogue : Dialogue world allowed u s) (tries k : Nat)
    (counted : asked t.events = asked s.events+k+1) :
    Ends (customizeStartCommand world network allowed tries (u k)) t
      (fun command v => v.store = t.store ∧ Tried allowed u network s k (k+tries) command v) (fun _ _ => False) := by
  induction tries generalizing k t with
  | zero => exact ends_pure ⟨rfl,.refused (by omega) rfl counted⟩
  | succ tries ih =>
    unfold customizeStartCommand
    by_cases accepts : validateStartCommandFlags allowed (u k) = true
    · rw [if_pos accepts]
      exact ends_pure ⟨rfl,.accepted k (Nat.le_refl k) (by omega) accepts (by omega) rfl counted⟩
    · rw [if_neg accepts,if_pos (Nat.zero_le tries)]
      have next : asked t.events = asked s.events+(k+1) := by omega
      apply ends_bind (prompt_ends dialogue next)
      intro input v prompted
      obtain ⟨rfl,same,counted⟩ := prompted
      apply ends_imp (ih (k+1) counted)
      · intro command w ended
        have bound : k+1+tries = k+(tries+1) := by omega
        rw [bound] at ended
        exact ⟨ended.1.trans same,ended.2.earlier (by simpa using accepts)⟩
      · exact fun _ _ never => never

theorem help_ends (dialogue : Dialogue world allowed u s) :
    Ends (execAsync world .liskCoreStartHelp) t
      (fun stdout v => allowedFlagsArray stdout = allowed ∧ asked v.events = asked t.events) (fun _ _ => False) := by
  obtain ⟨stdout,helped,listed⟩ := dialogue.help t.events
  apply ends_exec
  · intro output replied
    cases replied.trans helped
    exact ⟨listed,List.countP_cons_of_neg (by simp [isPrompt])⟩
  · intro fault replied
    cases replied.trans helped

theorem confirm_customize (dialogue : Dialogue world allowed u s) :
    Ends (settled (ask world (.confirm (.customizeStartCommand (baseStartCommand network ++ " --config " ++ configPath))))) s
      (fun isUserConfirmed t => isUserConfirmed = true ∧ asked t.events = asked s.events) (fun (_ : Thrown) _ => False) := by
  apply ends_settled
  apply ends_ask
  intro reply replied
  rw [dialogue.customizes] at replied
  cases replied
  exact ⟨rfl,List.countP_cons_of_neg (by simp [isPrompt])⟩

theorem resolve_ends (dialogue : Dialogue world allowed u s) :
    Ends (resolveLiskCoreStartCommand world network configPath) s
      (fun command t => Tried allowed u network s 0 3 command t ∧ t.store.liskCoreStartCommand = some command)
      (fun _ _ => False) := by
  apply ends_bind (confirm_customize dialogue)
  intro isUserConfirmed t confirmed
  obtain ⟨rfl,counted⟩ := confirmed
  have unasked : asked t.events = asked s.events+0 := counted
  apply ends_bind (prompt_ends dialogue unasked)
  intro userInput t prompted
  obtain ⟨rfl,_,counted⟩ := prompted
  apply ends_bind (help_ends dialogue)
  intro stdout v listed
  obtain ⟨rfl,same⟩ := listed
  apply ends_bind (customize_ends dialogue 3 0 (same.trans counted))
  intro command t ended
  have recorded : Ends (recordStartCommand command) t
      (fun _ v => v.store.liskCoreStartCommand = some command ∧ v.events = t.events) (fun _ _ => False) :=
    ends_update _ ⟨rfl,rfl⟩
  apply ends_bind recorded
  intro _ v held
  apply ends_pure
  refine ⟨?_,held.1⟩
  cases ended.2 with
  | accepted i start below accepts first built counted =>
    exact .accepted i start below accepts first built (held.2 ▸ counted)
  | refused none built counted => exact .refused none built (held.2 ▸ counted)

end Loop

theorem tried_first {s : Session migrator Store} (found : ∃ i < 3, validateStartCommandFlags allowed (u i) = true)
    (tried : Tried allowed u network s 0 3 command t) (recorded : t.store.liskCoreStartCommand = some command) :
    FirstAccepted allowed u network s command t := by
  cases tried with
  | accepted i start below accepts first built counted =>
    exact ⟨i,accepts,fun j earlier => first j (Nat.zero_le j) earlier,built,counted,recorded⟩
  | refused none built counted =>
    obtain ⟨i,below,accepts⟩ := found
    cases accepts.symm.trans (none i (Nat.zero_le i) below)

theorem first_tried {s : Session migrator Store} (first : FirstAccepted allowed u network s command t)
    (tried : Tried allowed u network s 0 3 command t) : ∃ i < 3, validateStartCommandFlags allowed (u i) = true := by
  cases tried with
  | accepted i start below accepts first built counted => exact ⟨i,below,accepts⟩
  | refused none built counted =>
    obtain ⟨i,_,_,flagged,_⟩ := first
    have same : baseStartCommand network = baseStartCommand network ++ " " ++ u i := built.symm.trans flagged
    have lengths := congrArg String.length same
    rw [String.length_append,String.length_append] at lengths
    have space : " ".length = 1 := rfl
    omega

theorem start_command_iff (dialogue : Dialogue world allowed u s) :
    Ends (resolveLiskCoreStartCommand world network configPath) s (FirstAccepted allowed u network s)
      (fun _ t => AllRefused allowed u s t) ↔
    ∃ i < 3, validateStartCommandFlags allowed (u i) = true := by
  constructor
  · intro right
    by_contra none
    have tried := ends_and right (resolve_ends dialogue)
    have never : Ends (resolveLiskCoreStartCommand world network configPath) s (fun _ _ => False) (fun _ _ => False) := by
      apply ends_imp tried
      · exact fun _ _ ended => none (first_tried ended.1 ended.2.1)
      · exact fun _ _ ended => ended.2
    exact ends_never never
  · intro found
    apply ends_imp (resolve_ends dialogue)
    · exact fun _ _ ended => tried_first found ended.1 ended.2
    · exact fun _ _ never => never.elim

namespace Sample

def answering (u : Nat → String) : World migrator := fun events request =>
  match request with
  | .confirm _ => .ok true
  | .prompt => .ok (u (asked events))
  | .exec _ => .ok "-c, --config=<value>\n"
  | request => refused request

def configFlags : List String := ["-c, --config=<value>"]

theorem dialogue (u : Nat → String) : Dialogue (answering u) configFlags u ⟨[],.fresh⟩ where
  customizes := fun _ => rfl
  answers := by
    intro events i counted
    have position : asked events = i := counted.trans (Nat.zero_add i)
    exact congrArg (fun n => Except.ok (u n)) position
  help := fun _ => ⟨_,rfl,by decide⟩

end Sample

theorem start_command_sample :
    Ends (resolveLiskCoreStartCommand (Sample.answering (fun _ => "-c=./a.json")) "mainnet" "/out/config.json") ⟨[],.fresh⟩
      (FirstAccepted Sample.configFlags (fun _ => "-c=./a.json") "mainnet" ⟨[],.fresh⟩)
      (fun _ t => AllRefused Sample.configFlags (fun _ => "-c=./a.json") ⟨[],.fresh⟩ t) ↔
    ∃ i < 3, validateStartCommandFlags Sample.configFlags ((fun _ => "-c=./a.json" : Nat → String) i) = true :=
  start_command_iff (Sample.dialogue _)

theorem fourth_answer_ignored : ∃ t,
    resolveLiskCoreStartCommand (Sample.answering (fun i => if i < 3 then "--api-ws" else "-c=./a.json")) "mainnet" "/out/config.json"
      ⟨[],.fresh⟩ = .ok "lisk-core start --network mainnet" t ∧
    asked t.events = 4 ∧ t.store.liskCoreStartCommand = some "lisk-core start --network mainnet" ∧
    validateStartCommandFlags Sample.configFlags "--api-ws" = false ∧
    validateStartCommandFlags Sample.configFlags "-c=./a.json" = true :=
  ⟨_,by rfl,by decide,by rfl,by decide,by decide⟩

end LiskMigrator
