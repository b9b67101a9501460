import Mathlib.Data.List.Basic
import Mathlib.Data.List.Infix

namespace LiskMigrator.Words

def startsWith (text start : String) : Bool := start.toList.isPrefixOf text.toList

def endsWith (text ending : String) : Bool := ending.toList.isSuffixOf text.toList

theorem startsWith_iff {text start : String} : startsWith text start = true ↔ start.toList <+: text.toList :=
  List.isPrefixOf_iff_prefix

theorem startsWith_append (start one two : String) : startsWith (start ++ one) (start ++ two) = startsWith one two := by
  rw [Bool.eq_iff_iff,startsWith_iff,startsWith_iff,String.toList_append,String.toList_append,List.prefix_append_right_inj]

theorem startsWith_longer {text start : String} (starts : startsWith text start = true) (rest : String) :
    startsWith (text ++ rest) start = true := by
  rw [startsWith_iff] at starts ⊢
  rw [String.toList_append]
  exact starts.trans (List.prefix_append _ _)

theorem startsWith_trans {text middle start : String} (long : startsWith text middle = true) (short : startsWith middle start = true) :
    startsWith text start = true := by
  rw [startsWith_iff] at long short ⊢
  exact short.trans long

theorem startsWith_self (start rest : String) : startsWith (start ++ rest) start = true := by
  rw [startsWith_iff,String.toList_append]
  exact List.prefix_append _ _

-- String.prototype.includes.
def occurs (part : List Char) : List Char → Bool
  | [] => part.isEmpty
  | c :: rest => part.isPrefixOf (c :: rest) || occurs part rest

def includes (text part : String) : Bool := occurs part.toList text.toList

theorem occurs_iff {part text : List Char} : occurs part text = true ↔ part <:+: text := by
  induction text with
  | nil => simp [occurs,List.isEmpty_iff]
  | cons c rest ih => rw [occurs,Bool.or_eq_true,List.isPrefixOf_iff_prefix,ih,List.infix_cons_iff]

theorem includes_iff {text part : String} : includes text part = true ↔ part.toList <:+: text.toList := occurs_iff

-- The replacement text of String.prototype.replace: a dollar sign and one of four
-- characters stand for itself, what was found, and the text before and after that.
section Replacing

def backquote : Char := Char.ofNat 96

def apostrophe : Char := Char.ofNat 39

def standsFor (found before after : List Char) (c : Char) : Option (List Char) :=
  if c = '$' then some ['$']
  else if c = '&' then some found
  else if c = backquote then some before
  else if c = apostrophe then some after
  else none

def replacement (found before after : List Char) : List Char → List Char
  | [] => []
  | [c] => [c]
  | c :: d :: rest =>
    match if c = '$' then standsFor found before after d else none with
    | some text => text ++ replacement found before after rest
    | none => c :: replacement found before after (d :: rest)

-- No dollar sign is followed by one of the four.
def Patternless (chars : List Char) : Prop := ∀ c ∈ ['$','&',backquote,apostrophe], ¬ ['$',c] <:+: chars

theorem patternless_iff {chars : List Char} :
    ['$','&',backquote,apostrophe].all (fun c => !occurs ['$',c] chars) = true ↔ Patternless chars := by
  rw [List.all_eq_true]
  refine forall₂_congr (fun c _ => ?_)
  rw [Bool.not_eq_true',Bool.eq_false_iff,Ne,occurs_iff]

instance {chars : List Char} : Decidable (Patternless chars) := decidable_of_iff _ patternless_iff

theorem replacement_plain {found before after chars : List Char} (plain : Patternless chars) :
    replacement found before after chars = chars := by
  induction chars with
  | nil => rfl
  | cons c rest ih =>
    have later : Patternless rest := fun d special inside => plain d special (inside.trans (List.suffix_cons c rest).isInfix)
    cases rest with
    | nil => rfl
    | cons d rest =>
      have literal : (if c = '$' then standsFor found before after d else none) = none := by
        split
        · rename_i dollar
          have ordinary : d ∉ ['$','&',backquote,apostrophe] := fun special => plain d special ⟨[],rest,by rw [dollar]; rfl⟩
          simp only [List.mem_cons,List.not_mem_nil,or_false,not_or] at ordinary
          unfold standsFor
          rw [if_neg ordinary.1,if_neg ordinary.2.1,if_neg ordinary.2.2.1,if_neg ordinary.2.2.2]
        · rfl
      unfold replacement
      rw [literal]
      exact congrArg (c :: ·) (ih later)

end Replacing

-- text.split(/s+/) for a class s of characters: a run of separators parts two
-- pieces. `within` tells that the character before was one of the run.
section Splitting
variable (separator : Char → Bool)

def grow (c : Char) : List (List Char) → List (List Char)
  | first :: more => (c :: first) :: more
  | [] => [[c]]

def pieces : Bool → List Char → List (List Char)
  | _,[] => [[]]
  | within,c :: rest =>
    if separator c then if within then pieces true rest else [] :: pieces true rest
    else grow c (pieces false rest)

def split (text : String) : List String := (pieces separator false text.toList).map String.ofList

-- Words with a separator in front of every word but the first.
def weave (first : List Char) (rest : List (Char × List Char)) : List Char :=
  first ++ rest.flatMap (fun word => word.1 :: word.2)

end Splitting

section Splits
variable {separator : Char → Bool}

def Free (separator : Char → Bool) (word : List Char) : Prop := ∀ c ∈ word, separator c = false

theorem pieces_word {word : List Char} (free : Free separator word) (apart : separator s = true) (rest : List Char) :
    pieces separator false (word ++ s :: rest) = word :: pieces separator true rest := by
  induction word with
  | nil => simp [pieces,apart]
  | cons c word ih =>
    have letter := free c List.mem_cons_self
    have later := ih (fun x member => free x (List.mem_cons_of_mem c member))
    simp [pieces,letter,later,grow]

theorem pieces_last {word : List Char} (free : Free separator word) : pieces separator false word = [word] := by
  induction word with
  | nil => rfl
  | cons c word ih =>
    have letter := free c List.mem_cons_self
    have later := ih (fun x member => free x (List.mem_cons_of_mem c member))
    simp [pieces,letter,later,grow]

-- A word that is not empty ends the run of separators in front of it.
theorem pieces_within {word : List Char} (free : Free separator word) (filled : word ≠ []) (rest : List Char) :
    pieces separator true (word ++ rest) = pieces separator false (word ++ rest) := by
  cases word with
  | nil => exact absurd rfl filled
  | cons c word => simp [pieces,free c List.mem_cons_self]

theorem pieces_weave {first : List Char} {rest : List (Char × List Char)} (free : Free separator first)
    (words : ∀ word ∈ rest, separator word.1 = true ∧ word.2 ≠ [] ∧ Free separator word.2) :
    pieces separator false (weave first rest) = first :: rest.map Prod.snd := by
  induction rest generalizing first with
  | nil => simpa [weave] using pieces_last free
  | cons word rest ih =>
    obtain ⟨apart,filled,plain⟩ := words word List.mem_cons_self
    have later := ih plain (fun next member => words next (List.mem_cons_of_mem word member))
    have next := pieces_within plain filled (rest.flatMap (fun word => word.1 :: word.2))
    unfold weave at later ⊢
    rw [List.flatMap_cons,List.cons_append,pieces_word free apart,next,later,List.map_cons]

end Splits
-- A text at every occurrence of one character.
section Cuts
variable {c : Char} {separator : String}

def cutAt (c : Char) (text : String) : List String := (text.toList.splitOn c).map String.ofList

theorem cutAt_append (one : separator.toList = [c]) (text rest : String) :
    cutAt c (text ++ separator ++ rest) = cutAt c text ++ cutAt c rest := by
  unfold cutAt
  rw [String.toList_append,String.toList_append,one,List.append_assoc,List.singleton_append,List.splitOn_append_cons_self,
    List.map_append]

theorem cutAt_single {word : String} (plain : c ∉ word.toList) : cutAt c word = [word] := by
  unfold cutAt
  rw [List.splitOn_eq_singleton plain,List.map_singleton,String.ofList_toList]

theorem cutAt_nonempty (c : Char) (text : String) : cutAt c text ≠ [] := by
  unfold cutAt
  rw [Ne,List.map_eq_nil_iff]
  exact List.splitOn_ne_nil _ _

theorem intercalate_cutAt (one : separator.toList = [c]) (text : String) : separator.intercalate (cutAt c text) = text := by
  have texts : (cutAt c text).map String.toList = text.toList.splitOn c := by
    unfold cutAt
    rw [List.map_map]
    exact (List.map_congr_left (fun _ _ => String.toList_ofList)).trans (List.map_id _)
  apply String.toList_injective
  rw [String.toList_intercalate,texts,one,List.intercalate_splitOn]

theorem cutAt_alone (one : separator.toList = [c]) {text : String} (single : (cutAt c text).length = 1) : cutAt c text = [text] := by
  obtain ⟨word,alone⟩ := List.length_eq_one_iff.mp single
  have whole := intercalate_cutAt one text
  rw [alone,String.intercalate_singleton] at whole
  rw [alone,whole]

end Cuts

end LiskMigrator.Words
