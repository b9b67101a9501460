import LiskMigrator.Utils.StartFlags
import Mathlib.Data.List.Basic

namespace LiskMigrator
open Words

-- The runs of the loop that end with true, as rules over the inputs: a flag is
-- found in some entry and never stands last, a value answers a flag.
inductive Reads (allowedFlags : List String) : Bool → List String → Prop where
  | done : Reads allowedFlags expected []
  | flag (own : Regex.networkFlag input = false) (looks : Regex.flag input = true)
      (known : correspondingFlag allowedFlags input = some found) (followed : rest ≠ [])
      (later : Reads allowedFlags (Regex.optionOrValue found) rest) : Reads allowedFlags false (input :: rest)
  | value (own : Regex.networkFlag input = false) (looks : Regex.flag input = false)
      (later : Reads allowedFlags false rest) : Reads allowedFlags true (input :: rest)

theorem validateInputs_exact : validateInputs allowedFlags expected inputs = true ↔ Reads allowedFlags expected inputs := by
  constructor
  · intro accepted
    induction inputs generalizing expected with
    | nil => exact .done
    | cons input rest ih =>
      unfold validateInputs at accepted
      cases own : Regex.networkFlag input with
      | true => simp [own] at accepted
      | false =>
        cases looks : Regex.flag input with
        | true =>
          cases known : correspondingFlag allowedFlags input with
          | none => simp [own,looks,known] at accepted
          | some found =>
            cases expected with
            | true => simp [own,looks,known] at accepted
            | false =>
              simp only [own,looks,known,Bool.false_or,Bool.false_eq_true,if_false,if_true] at accepted
              split at accepted
              · cases accepted
              · rename_i followed
                exact .flag own looks known (by simpa using followed) (ih accepted)
        | false =>
          cases expected with
          | true =>
            simp only [own,looks,Bool.false_eq_true,if_false,if_true] at accepted
            exact .value own looks (ih accepted)
          | false => simp [own,looks] at accepted
  · intro reads
    induction reads with
    | done => rfl
    | flag own looks known followed _ ih => simp [validateInputs,own,looks,known,followed,ih]
    | value own looks _ ih => simp [validateInputs,own,looks,ih]

-- A line of the help output, as `cut` leaves it.
inductive Argument where
  | option
  | value
deriving DecidableEq

def Argument.text : Argument → String
  | .option => "=<option>"
  | .value => "=<value>"

structure HelpEntry where
  short : Option Char
  long : String
  argument : Option Argument
  padding : Nat
deriving DecidableEq

namespace HelpEntry

def shortName (entry : HelpEntry) : Option String := entry.short.map (fun letter => String.ofList ['-',letter])

def longName (entry : HelpEntry) : String := "--" ++ entry.long

def text (entry : HelpEntry) : String :=
  (match entry.shortName with
    | none => ""
    | some name => name ++ ", ") ++
  entry.longName ++ (match entry.argument with
    | none => ""
    | some argument => argument.text) ++ String.ofList (List.replicate entry.padding ' ')

def Named (entry : HelpEntry) (token : String) : Prop := token = entry.longName ∨ some token = entry.shortName

instance : Decidable (Named entry token) := inferInstanceAs (Decidable (_ ∨ _))

def takesValue (entry : HelpEntry) : Bool := entry.argument.isSome

end HelpEntry

def helpFlags (entries : List HelpEntry) : List String := entries.map HelpEntry.text

def inputTokens (input : String) : List String := split Regex.inputSeparator input

-- What a start command may carry: flags under their own names, each with as
-- many values as its entry says.
inductive FlagItems (entries : List HelpEntry) : List String → Prop where
  | nil : FlagItems entries []
  | plain (listed : entry ∈ entries) (named : entry.Named token) (bare : entry.takesValue = false)
      (rest : FlagItems entries tokens) : FlagItems entries (token :: tokens)
  | valued (listed : entry ∈ entries) (named : entry.Named token) (takes : entry.takesValue = true)
      (looks : Regex.flag value = false) (rest : FlagItems entries tokens) : FlagItems entries (token :: value :: tokens)

def Sound (entries : List HelpEntry) (input : String) : Prop :=
  validateStartCommandFlags (helpFlags entries) input = true →
    FlagItems entries (inputTokens input) ∧ "-n" ∉ inputTokens input ∧ "--network" ∉ inputTokens input

-- The word is a flag, and the entry it is looked up in shows whether it takes a value.
def Exact (entries : List HelpEntry) (token : String) : Prop :=
  ∀ found, correspondingFlag (helpFlags entries) token = some found →
    ∃ entry ∈ entries, entry.Named token ∧ entry.takesValue = Regex.optionOrValue found

def Bare (entries : List HelpEntry) (token : String) : Prop := ∃ entry ∈ entries, entry.Named token ∧ entry.takesValue = false

-- Two flags without values, of which the second does not look like one and is
-- taken for the value of the first.
def Mistaken (entries : List HelpEntry) (token : String) (rest : List String) : Prop :=
  Bare entries token ∧ ∃ next more, rest = next :: more ∧ Regex.flag next = false ∧ Bare entries next

-- Every word that looks like a flag is a flag, with the value that it has to have.
def FlagsKnown (entries : List HelpEntry) : List String → Prop
  | [] => True
  | token :: rest => (Regex.flag token = true → Exact entries token ∨ Mistaken entries token rest) ∧ FlagsKnown entries rest

section Soundness
variable {entries : List HelpEntry}

theorem reads_flag (looks : Regex.flag input = true) : Reads allowedFlags expected (input :: rest) ↔
    expected = false ∧ Regex.networkFlag input = false ∧
      ∃ found, correspondingFlag allowedFlags input = some found ∧ rest ≠ [] ∧
        Reads allowedFlags (Regex.optionOrValue found) rest := by
  constructor
  · intro reads
    cases reads with
    | flag own _ known followed later => exact ⟨rfl,own,_,known,followed,later⟩
    | value _ plain _ => exact absurd (plain.symm.trans looks) (by decide)
  · intro given
    obtain ⟨rfl,own,_,known,followed,later⟩ := given
    exact .flag own looks known followed later

theorem reads_value (looks : Regex.flag input = false) : Reads allowedFlags expected (input :: rest) ↔
    expected = true ∧ Regex.networkFlag input = false ∧ Reads allowedFlags false rest := by
  constructor
  · intro reads
    cases reads with
    | flag _ flagged _ _ _ => exact absurd (looks.symm.trans flagged) (by decide)
    | value own _ later => exact ⟨rfl,own,later⟩
  · intro given
    obtain ⟨rfl,own,later⟩ := given
    exact .value own looks later

theorem known_value (looks : Regex.flag token = false) : FlagsKnown entries (token :: rest) ↔ FlagsKnown entries rest :=
  and_iff_right (fun flagged => absurd (looks.symm.trans flagged) (by decide))

-- A flag that the loop reads without a value, in front of what is read as flags.
theorem bare_items_iff (looks : Regex.flag token = true) (known : correspondingFlag (helpFlags entries) token = some found)
    (read : Regex.optionOrValue found = false) (later : Reads (helpFlags entries) false rest)
    (same : FlagItems entries rest ↔ FlagsKnown entries rest) :
    FlagItems entries (token :: rest) ↔ FlagsKnown entries (token :: rest) := by
  constructor
  · intro items
    cases items with
    | plain listed named bare items =>
      refine ⟨fun _ => .inl (fun other found => ?_),same.mp items⟩
      cases known.symm.trans found
      exact ⟨_,listed,named,bare.trans read.symm⟩
    | valued _ _ _ plain _ => exact absurd ((reads_value plain).mp later).1 (by decide)
  · intro holds
    have items := same.mpr holds.2
    rcases holds.1 looks with exact | mistaken
    · obtain ⟨entry,listed,named,shown⟩ := exact found known
      exact .plain listed named (shown.trans read) items
    · obtain ⟨entry,listed,named,bare⟩ := mistaken.1
      exact .plain listed named bare items

-- A flag that the loop reads with the value behind it.
theorem valued_items_iff (looks : Regex.flag token = true) (known : correspondingFlag (helpFlags entries) token = some found)
    (read : Regex.optionOrValue found = true) (plain : Regex.flag value = false) (later : Reads (helpFlags entries) false rest)
    (same : FlagItems entries rest ↔ FlagsKnown entries rest) :
    FlagItems entries (token :: value :: rest) ↔ FlagsKnown entries (token :: value :: rest) := by
  constructor
  · intro items
    cases items with
    | plain listed named bare items =>
      cases items with
      | plain other nextNamed nextBare items =>
        exact ⟨fun _ => .inr ⟨⟨_,listed,named,bare⟩,value,rest,rfl,plain,_,other,nextNamed,nextBare⟩,
          (known_value plain).mpr (same.mp items)⟩
      | valued _ _ _ unlike _ => exact absurd ((reads_value unlike).mp later).1 (by decide)
    | valued listed named takes _ items =>
      refine ⟨fun _ => .inl (fun other found => ?_),(known_value plain).mpr (same.mp items)⟩
      cases known.symm.trans found
      exact ⟨_,listed,named,takes.trans read.symm⟩
  · intro holds
    have items := same.mpr ((known_value plain).mp holds.2)
    rcases holds.1 looks with exact | mistaken
    · obtain ⟨entry,listed,named,shown⟩ := exact found known
      exact .valued listed named (shown.trans read) plain items
    · obtain ⟨⟨entry,listed,named,bare⟩,next,more,split,_,other,inTable,nextNamed,nextBare⟩ := mistaken
      cases split
      exact .plain listed named bare (.plain inTable nextNamed nextBare items)

-- By the rules of the loop: behind a flag that is read with a value stands one.
theorem reads_items_iff (reads : Reads (helpFlags entries) expected tokens) :
    if expected then ∀ value rest, tokens = value :: rest → (FlagItems entries rest ↔ FlagsKnown entries rest)
    else (FlagItems entries tokens ↔ FlagsKnown entries tokens) := by
  induction reads with
  | @done expected =>
    cases expected with
    | true =>
      intro value rest split
      cases split
    | false => exact iff_of_true .nil trivial
  | @flag input found rest own looks known followed later ih =>
    rw [if_neg Bool.false_ne_true]
    cases read : Regex.optionOrValue found with
    | false =>
      rw [read] at later ih
      exact bare_items_iff looks known read later ih
    | true =>
      rw [read] at later ih
      obtain ⟨value,more,rfl⟩ := List.exists_cons_of_ne_nil followed
      cases later with
      | value _ plain last => exact valued_items_iff looks known read plain last (ih value more rfl)
  | @value input rest own looks later ih =>
    intro value more split
    cases split
    exact ih

theorem reads_own (reads : Reads allowedFlags expected tokens) : ∀ token ∈ tokens, Regex.networkFlag token = false := by
  induction reads with
  | done => simp
  | flag own _ _ _ _ ih =>
    intro token member
    rcases List.mem_cons.mp member with rfl | later
    · exact own
    · exact ih token later
  | value own _ _ ih =>
    intro token member
    rcases List.mem_cons.mp member with rfl | later
    · exact own
    · exact ih token later

theorem accepted_reads {input : String} (accepted : validateStartCommandFlags (helpFlags entries) input = true) :
    Reads (helpFlags entries) false (inputTokens input) := validateInputs_exact.mp accepted

theorem accepted_own {input : String} (accepted : validateStartCommandFlags (helpFlags entries) input = true) :
    "-n" ∉ inputTokens input ∧ "--network" ∉ inputTokens input := by
  have own := reads_own (accepted_reads accepted)
  constructor
  · intro present
    exact absurd (own _ present) (by decide)
  · intro present
    exact absurd (own _ present) (by decide)

end Soundness

-- Names in lower case, as the help output gives them.
def HelpEntry.LowerCase (entry : HelpEntry) : Prop :=
  (∀ letter ∈ entry.short, lowerCase letter = true) ∧ dashedWords false entry.long.toList = true

instance : Decidable (HelpEntry.LowerCase entry) :=
  decidable_of_iff (entry.short.all lowerCase = true ∧ dashedWords false entry.long.toList = true)
    (and_congr_left (fun _ => by rw [Option.all_eq_true]; rfl))

theorem lowerCase_plain (lower : lowerCase c = true) : Regex.inputSeparator c = false := by
  unfold lowerCase at lower
  simp only [Bool.and_eq_true,decide_eq_true_eq] at lower
  obtain ⟨from_a,to_z⟩ := lower
  have low : 97 ≤ c.toNat := from_a
  have high : c.toNat ≤ 122 := to_z
  unfold Regex.inputSeparator whitespace
  simp only [Bool.or_eq_false_iff,decide_eq_false_iff_not,beq_eq_false_iff_ne]
  constructor
  · intro blank
    simp only [List.mem_cons,List.not_mem_nil,or_false] at blank
    rcases blank with rfl | rfl | rfl | rfl | rfl | rfl | rfl | rfl | rfl | rfl | rfl | rfl | rfl | rfl | rfl | rfl | rfl | rfl |
      rfl | rfl | rfl | rfl | rfl | rfl | rfl <;> revert low high <;> decide
  · intro equal
    subst equal
    revert low
    decide

theorem dashedWords_free {word : List Char} (dashed : dashedWords letter word = true) : Free Regex.inputSeparator word := by
  induction word generalizing letter with
  | nil => simp [Free]
  | cons c rest ih =>
    unfold dashedWords at dashed
    intro x member
    split at dashed
    · rename_i lower
      rcases List.mem_cons.mp member with rfl | later
      · exact lowerCase_plain lower
      · exact ih dashed x later
    · simp only [Bool.and_eq_true,beq_iff_eq] at dashed
      obtain ⟨⟨dash,_⟩,dashed⟩ := dashed
      rcases List.mem_cons.mp member with rfl | later
      · exact dash ▸ by decide
      · exact ih dashed x later

theorem named_flag {entry : HelpEntry} (lower : entry.LowerCase) (named : entry.Named token) :
    Regex.flag token = true ∧ Free Regex.inputSeparator token.toList := by
  obtain ⟨short,long⟩ := lower
  rcases named with rfl | given
  · have letters := dashedWords_free long
    refine ⟨by simpa [HelpEntry.longName,Regex.flag,flagPattern] using long,?_⟩
    intro c member
    have parts : c = '-' ∨ c ∈ entry.long.toList := by simpa [HelpEntry.longName] using member
    rcases parts with rfl | letter
    · decide
    · exact letters c letter
  · unfold HelpEntry.shortName at given
    cases known : entry.short with
    | none => simp [known] at given
    | some letter =>
      have lower := short letter known
      simp only [known,Option.map_some,Option.some.injEq] at given
      subst given
      have apart : letter ≠ '-' := by
        intro equal
        subst equal
        revert lower
        decide
      have pattern : Regex.flag (String.ofList ['-',letter]) = true := by
        unfold Regex.flag flagPattern
        rw [String.toList_ofList]
        split
        · rename_i same
          cases same
          exact absurd rfl apart
        · rename_i same
          cases same
          exact lower
        · rename_i other
          exact absurd rfl (other letter [])
      refine ⟨pattern,?_⟩
      intro c member
      have parts : c = '-' ∨ c = letter := by simpa using member
      rcases parts with rfl | rfl
      · decide
      · exact lowerCase_plain lower

-- In a table of lower-case names every name looks like a flag.
theorem known_lower {entries : List HelpEntry} (lower : ∀ entry ∈ entries, entry.LowerCase) (tokens : List String) :
    FlagsKnown entries tokens ↔ ∀ token ∈ tokens, Regex.flag token = true → Exact entries token := by
  induction tokens with
  | nil => simp [FlagsKnown]
  | cons token rest ih =>
    rw [List.forall_mem_cons]
    unfold FlagsKnown
    rw [ih]
    have unmistaken : ¬ Mistaken entries token rest := by
      intro mistaken
      obtain ⟨_,next,_,_,plain,entry,listed,named,_⟩ := mistaken
      exact absurd (plain.symm.trans (named_flag (lower entry listed) named).1) (by decide)
    rw [or_iff_left unmistaken]

-- Of the inputs that are accepted; one that is refused is no start command.
theorem start_flags_sound_iff {entries : List HelpEntry} {input : String}
    (accepted : validateStartCommandFlags (helpFlags entries) input = true) :
    (Sound entries input ↔ FlagsKnown entries (inputTokens input)) ∧
      ((∀ entry ∈ entries, entry.LowerCase) →
        (Sound entries input ↔ ∀ token ∈ inputTokens input, Regex.flag token = true → Exact entries token)) := by
  have items : FlagItems entries (inputTokens input) ↔ FlagsKnown entries (inputTokens input) := reads_items_iff (accepted_reads accepted)
  have sound : Sound entries input ↔ FlagsKnown entries (inputTokens input) := by
    unfold Sound
    rw [forall_prop_of_true accepted,and_iff_left (accepted_own accepted),items]
  exact ⟨sound,fun lower => sound.trans (known_lower lower _)⟩

theorem start_flags_sound_sample :
    validateStartCommandFlags (helpFlags [⟨some 'c',"config",some .value,0⟩]) "-c a.json" = true ∧
    (Sound [⟨some 'c',"config",some .value,0⟩] "-c a.json" ↔
      ∀ token ∈ inputTokens "-c a.json", Regex.flag token = true → Exact [⟨some 'c',"config",some .value,0⟩] token) := by
  have accepted : validateStartCommandFlags (helpFlags [⟨some 'c',"config",some .value,0⟩]) "-c a.json" = true := by decide
  exact ⟨accepted,(start_flags_sound_iff accepted).2 (by decide)⟩

theorem partial_flag_accepted :
    validateStartCommandFlags (helpFlags [⟨some 'c',"config",some .value,0⟩]) "-config a.json" = true ∧
    ¬ Sound [⟨some 'c',"config",some .value,0⟩] "-config a.json" := by
  have accepted : validateStartCommandFlags (helpFlags [⟨some 'c',"config",some .value,0⟩]) "-config a.json" = true := by decide
  have tokens : inputTokens "-config a.json" = ["-config","a.json"] := by decide
  refine ⟨accepted,?_⟩
  intro sound
  have items := (sound accepted).1
  rw [tokens] at items
  cases items with
  | plain listed named _ _ =>
    cases List.mem_singleton.mp listed
    exact absurd named (by decide)
  | valued listed named _ _ _ =>
    cases List.mem_singleton.mp listed
    exact absurd named (by decide)

-- A flag with the value written after it, and the character that joins the two.
structure FlagItem where
  flag : String
  argument : Option (Char × String)
deriving DecidableEq

namespace FlagItem

def takesValue (item : FlagItem) : Bool := item.argument.isSome

def tokens (item : FlagItem) : List String :=
  match item.argument with
  | none => [item.flag]
  | some (_,value) => [item.flag,value]

def text (item : FlagItem) : String :=
  match item.argument with
  | none => item.flag
  | some (joint,value) => item.flag ++ String.singleton joint ++ value

structure WellFormed (entries : List HelpEntry) (item : FlagItem) : Prop where
  listed : ∃ entry ∈ entries, entry.Named item.flag ∧ entry.takesValue = item.takesValue
  other : item.flag ≠ "-n" ∧ item.flag ≠ "--network"
  value : ∀ joint value, item.argument = some (joint,value) →
    (joint = ' ' ∨ joint = '=') ∧ value ≠ "" ∧ Free Regex.inputSeparator value.toList ∧ Regex.flag value = false

end FlagItem

def joinItems (items : List FlagItem) : String := " ".intercalate (items.map FlagItem.text)

def itemTokens (items : List FlagItem) : List String := items.flatMap FlagItem.tokens

-- What the loop reads of an item where it looks its flag up.
structure ReadRight (entries : List HelpEntry) (item : FlagItem) : Prop where
  own : ∀ token ∈ item.tokens, Regex.networkFlag token = false
  found : ∀ found, correspondingFlag (helpFlags entries) item.flag = some found → Regex.optionOrValue found = item.takesValue

section Completeness
variable {entries : List HelpEntry}

theorem looks_filled (looks : Regex.flag token = true) : token.toList ≠ [] := by
  intro empty
  simp [Regex.flag,empty,flagPattern] at looks

-- A name of an entry is a part of its line, so the lookup finds some line.
theorem named_included {entry : HelpEntry} (named : entry.Named token) : includes entry.text token = true := by
  rw [includes_iff]
  rcases named with rfl | given
  · unfold HelpEntry.text
    simp only [String.toList_append,List.append_assoc]
    exact ⟨_,_,by rw [List.append_assoc]⟩
  · unfold HelpEntry.text
    rw [← given]
    simp only [String.toList_append,List.append_assoc]
    exact (List.prefix_append _ _).isInfix

theorem named_found (listed : ∃ entry ∈ entries, entry.Named token) :
    ∃ found, correspondingFlag (helpFlags entries) token = some found := by
  obtain ⟨entry,member,named⟩ := listed
  have some : (correspondingFlag (helpFlags entries) token).isSome := by
    rw [correspondingFlag,List.find?_isSome]
    exact ⟨entry.text,List.mem_map_of_mem member,named_included named⟩
  exact Option.isSome_iff_exists.mp some

-- The first token of well-formed items is a flag.
theorem items_first (item : FlagItem) (rest : List FlagItem) : ∃ later, itemTokens (item :: rest) = item.flag :: later := by
  unfold itemTokens FlagItem.tokens
  rw [List.flatMap_cons]
  cases item.argument <;> exact ⟨_,rfl⟩

-- Whatever the loop reads items with, it is not a value.
theorem items_expected {rest : List FlagItem} (lower : ∀ entry ∈ entries, entry.LowerCase)
    (formed : ∀ item ∈ rest, item.WellFormed entries) (filled : rest ≠ [])
    (reads : Reads (helpFlags entries) expected (itemTokens rest)) : expected = false := by
  cases rest with
  | nil => exact absurd rfl filled
  | cons next rest =>
    obtain ⟨entry,listed,named,_⟩ := (formed next List.mem_cons_self).listed
    have looks := (named_flag (lower entry listed) named).1
    obtain ⟨more,first⟩ := items_first next rest
    rw [first] at reads
    exact ((reads_flag looks).mp reads).1

theorem bare_item_reads {item : FlagItem} {rest : List FlagItem} (lower : ∀ entry ∈ entries, entry.LowerCase)
    (formed : ∀ each ∈ rest, each.WellFormed entries) (bare : item.argument = none)
    (looks : Regex.flag item.flag = true) (known : correspondingFlag (helpFlags entries) item.flag = some found) :
    Reads (helpFlags entries) false (item.flag :: itemTokens rest) ↔
      ReadRight entries item ∧ (rest = [] → item.takesValue = true) ∧ Reads (helpFlags entries) false (itemTokens rest) := by
  have takes : item.takesValue = false := by simp [FlagItem.takesValue,bare]
  have tokens : item.tokens = [item.flag] := by simp [FlagItem.tokens,bare]
  rw [reads_flag looks]
  constructor
  · intro reads
    obtain ⟨_,kept,other,same,followed,later⟩ := reads
    cases known.symm.trans same
    have filled : rest ≠ [] := fun empty => followed (by rw [empty]; rfl)
    have unread := items_expected lower formed filled later
    refine ⟨⟨by simpa [tokens] using kept,?_⟩,fun empty => absurd empty filled,unread ▸ later⟩
    intro other same
    cases known.symm.trans same
    exact unread.trans takes.symm
  · intro holds
    obtain ⟨right,last,later⟩ := holds
    have unread : Regex.optionOrValue found = false := (right.found found known).trans takes
    have followed : itemTokens rest ≠ [] := by
      cases rest with
      | nil => exact absurd (takes.symm.trans (last rfl)) (by decide)
      | cons next rest =>
        obtain ⟨more,first⟩ := items_first next rest
        simp [first]
    exact ⟨rfl,right.own item.flag (by simp [tokens]),found,known,followed,unread ▸ later⟩

theorem valued_item_reads {item : FlagItem} {rest : List FlagItem} (valued : item.argument = some (joint,value))
    (plain : Regex.flag value = false) (looks : Regex.flag item.flag = true)
    (known : correspondingFlag (helpFlags entries) item.flag = some found) :
    Reads (helpFlags entries) false (item.flag :: value :: itemTokens rest) ↔
      ReadRight entries item ∧ (rest = [] → item.takesValue = true) ∧ Reads (helpFlags entries) false (itemTokens rest) := by
  have takes : item.takesValue = true := by simp [FlagItem.takesValue,valued]
  have tokens : item.tokens = [item.flag,value] := by simp [FlagItem.tokens,valued]
  rw [reads_flag looks]
  constructor
  · intro reads
    obtain ⟨_,kept,other,same,_,later⟩ := reads
    cases known.symm.trans same
    obtain ⟨read,keptValue,later⟩ := (reads_value plain).mp later
    refine ⟨⟨by simpa [tokens] using ⟨kept,keptValue⟩,?_⟩,fun _ => takes,later⟩
    intro other same
    cases known.symm.trans same
    exact read.trans takes.symm
  · intro holds
    obtain ⟨right,_,later⟩ := holds
    have read : Regex.optionOrValue found = true := (right.found found known).trans takes
    have keptValue := right.own value (by simp [tokens])
    exact ⟨rfl,right.own item.flag (by simp [tokens]),found,known,by simp,(reads_value plain).mpr ⟨read,keptValue,later⟩⟩

theorem item_reads {item : FlagItem} {rest : List FlagItem} (lower : ∀ entry ∈ entries, entry.LowerCase)
    (formed : ∀ each ∈ item :: rest, each.WellFormed entries) :
    Reads (helpFlags entries) false (itemTokens (item :: rest)) ↔
      ReadRight entries item ∧ (rest = [] → item.takesValue = true) ∧ Reads (helpFlags entries) false (itemTokens rest) := by
  have own := formed item List.mem_cons_self
  obtain ⟨entry,listed,named,_⟩ := own.listed
  have looks := (named_flag (lower entry listed) named).1
  obtain ⟨found,known⟩ := named_found ⟨entry,listed,named⟩
  have split : itemTokens (item :: rest) = item.tokens ++ itemTokens rest := List.flatMap_cons
  cases argument : item.argument with
  | none =>
    have tokens : item.tokens = [item.flag] := by simp [FlagItem.tokens,argument]
    rw [split,tokens]
    exact bare_item_reads lower (fun each member => formed each (List.mem_cons_of_mem item member)) argument looks known
  | some given =>
    obtain ⟨joint,value⟩ := given
    have tokens : item.tokens = [item.flag,value] := by simp [FlagItem.tokens,argument]
    have plain := (own.value joint value argument).2.2.2
    rw [split,tokens]
    exact valued_item_reads argument plain looks known

theorem items_read {items : List FlagItem} (lower : ∀ entry ∈ entries, entry.LowerCase)
    (formed : ∀ item ∈ items, item.WellFormed entries) :
    Reads (helpFlags entries) false (itemTokens items) ↔
      (∀ item ∈ items, ReadRight entries item) ∧ ∀ item, items.getLast? = some item → item.takesValue = true := by
  induction items with
  | nil => simp [itemTokens,Reads.done]
  | cons item rest ih =>
    rw [item_reads lower formed,ih (fun item member => formed item (List.mem_cons_of_mem _ member)),List.forall_mem_cons]
    cases rest with
    | nil => simp
    | cons next rest => simp [List.getLast?_cons_cons,and_assoc]

-- The text of the items, split where the loop splits it, gives their tokens.
def FlagItem.pairs (item : FlagItem) : List (Char × List Char) :=
  match item.argument with
  | none => []
  | some (joint,value) => [(joint,value.toList)]

def itemPairs (items : List FlagItem) : List (Char × List Char) :=
  items.flatMap (fun item => (' ',item.flag.toList) :: item.pairs)

theorem item_text (item : FlagItem) : item.text.toList = weave item.flag.toList item.pairs := by
  unfold FlagItem.text FlagItem.pairs weave
  cases item.argument <;> simp

theorem items_text (item : FlagItem) (rest : List FlagItem) :
    (joinItems (item :: rest)).toList = weave item.flag.toList (item.pairs ++ itemPairs rest) := by
  induction rest generalizing item with
  | nil => simpa [joinItems,itemPairs] using item_text item
  | cons next rest ih =>
    have later := ih next
    have text := item_text item
    unfold joinItems at later ⊢
    rw [List.map_cons,List.map_cons,String.intercalate_cons_cons,← List.map_cons,String.toList_append,String.toList_append,later,text]
    simp [weave,itemPairs]

theorem tokens_pairs : FlagItem.tokens = fun item => item.flag :: item.pairs.map (String.ofList ∘ Prod.snd) := by
  funext item
  unfold FlagItem.tokens FlagItem.pairs
  cases item.argument <;> simp

theorem pairs_formed {item : FlagItem} (formed : item.WellFormed entries) : ∀ word ∈ item.pairs,
    Regex.inputSeparator word.1 = true ∧ word.2 ≠ [] ∧ Free Regex.inputSeparator word.2 := by
  intro word member
  unfold FlagItem.pairs at member
  cases given : item.argument with
  | none => simp [given] at member
  | some argument =>
    obtain ⟨joint,value⟩ := argument
    obtain ⟨joints,filled,free,_⟩ := formed.value joint value given
    simp only [given,List.mem_singleton] at member
    subst member
    refine ⟨?_,by simpa using filled,free⟩
    rcases joints with rfl | rfl <;> rfl

theorem items_tokens {item : FlagItem} {rest : List FlagItem} (lower : ∀ entry ∈ entries, entry.LowerCase)
    (formed : ∀ each ∈ item :: rest, each.WellFormed entries) :
    inputTokens (joinItems (item :: rest)) = itemTokens (item :: rest) := by
  have flags (each : FlagItem) (member : each ∈ item :: rest) :
      Regex.flag each.flag = true ∧ Free Regex.inputSeparator each.flag.toList := by
    obtain ⟨entry,listed,named,_⟩ := (formed each member).listed
    exact named_flag (lower entry listed) named
  have words : ∀ word ∈ item.pairs ++ itemPairs rest,
      Regex.inputSeparator word.1 = true ∧ word.2 ≠ [] ∧ Free Regex.inputSeparator word.2 := by
    intro word member
    rcases List.mem_append.mp member with own | later
    · exact pairs_formed (formed item List.mem_cons_self) word own
    · obtain ⟨each,inRest,present⟩ := List.mem_flatMap.mp later
      have inItems := List.mem_cons_of_mem item inRest
      rcases List.mem_cons.mp present with rfl | own
      · exact ⟨rfl,looks_filled (flags each inItems).1,(flags each inItems).2⟩
      · exact pairs_formed (formed each inItems) word own
  have parted := pieces_weave (flags item List.mem_cons_self).2 words
  unfold inputTokens split itemTokens
  rw [items_text,parted]
  simp [itemPairs,tokens_pairs,List.map_flatMap]

end Completeness

theorem start_flags_complete_iff {entries : List HelpEntry} {items : List FlagItem}
    (lower : ∀ entry ∈ entries, entry.LowerCase) (formed : ∀ item ∈ items, item.WellFormed entries) (filled : items ≠ []) :
    validateStartCommandFlags (helpFlags entries) (joinItems items) = true ↔
      (∀ item ∈ items, ReadRight entries item) ∧ ∀ item, items.getLast? = some item → item.takesValue = true := by
  cases items with
  | nil => exact absurd rfl filled
  | cons item rest =>
    have tokens := items_tokens lower formed
    rw [validateStartCommandFlags,validateInputs_exact,← inputTokens,tokens]
    exact items_read lower formed

namespace Sample

def helpTable : List HelpEntry := [⟨some 'c',"config",some .value,0⟩,⟨none,"api-ws",none,1⟩]

def startItems : List FlagItem := [⟨"--api-ws",none⟩,⟨"-c",some ('=',"./a.json")⟩]

theorem startItems_formed : ∀ item ∈ startItems, item.WellFormed helpTable := by
  intro item member
  simp only [startItems,List.mem_cons,List.not_mem_nil,or_false] at member
  rcases member with rfl | rfl
  · exact ⟨by decide,by decide,fun _ _ given => by cases given⟩
  · refine ⟨by decide,by decide,?_⟩
    intro joint value given
    cases given
    exact ⟨.inr rfl,by decide,by simp [Free]; decide,by decide⟩

end Sample

theorem start_flags_complete_sample :
    validateStartCommandFlags (helpFlags Sample.helpTable) (joinItems Sample.startItems) = true ↔
      (∀ item ∈ Sample.startItems, ReadRight Sample.helpTable item) ∧
        ∀ item, Sample.startItems.getLast? = some item → item.takesValue = true :=
  start_flags_complete_iff (by decide) Sample.startItems_formed (by decide)

theorem bare_flag_rejected :
    FlagItem.WellFormed [⟨none,"api-ws",none,1⟩] ⟨"--api-ws",none⟩ ∧
    validateStartCommandFlags (helpFlags [⟨none,"api-ws",none,1⟩]) (joinItems [⟨"--api-ws",none⟩]) = false := by
  refine ⟨⟨by decide,by decide,?_⟩,by decide⟩
  intro joint value given
  cases given

end LiskMigrator
