import LiskMigrator.Library.Words

-- How a shell reads the text of a command, as far as it is made of words that
-- stand for themselves, with one blank between any two of them.
namespace LiskMigrator.ShellWords
open Words

def quotationMark : Char := Char.ofNat 34

def backslash : Char := Char.ofNat 92

def openBrace : Char := Char.ofNat 123

def closeBrace : Char := Char.ofNat 125

-- The characters that a shell may take for more than themselves within a word. For
-- the braces and the exclamation mark shells differ.
def special : List Char :=
  [' ','\t','\n','|','&',';','<','>','(',')','$','*','?','[','!',openBrace,closeBrace,backquote,backslash,quotationMark,apostrophe]

def Unquoted (word : String) : Prop := ∀ c ∈ word.toList, c ∉ special

instance {word : String} : Decidable (Unquoted word) :=
  decidable_of_iff (word.toList.all (fun c => !special.contains c) = true) (by simp [Unquoted])

-- A path from the root, or one from the home directory with the tilde in front.
inductive Operand where
  | literal (path : String)
  | tilde (rest : String)
deriving DecidableEq

def Operand.read (word : String) : Option Operand :=
  if Unquoted word then
    if startsWith word "/" then some (.literal word)
    else if startsWith word "~/" then some (.tilde (String.ofList (word.toList.drop 1)))
    else none
  else none

inductive Utility where
  | mv
  | cp
deriving DecidableEq

structure CommandLine where
  utility : Utility
  operands : List Operand
deriving DecidableEq

-- `cp -r` with one operand is read too: that it is refused is for cp to say.
def CommandLine.read (text : String) : Option CommandLine :=
  match cutAt ' ' text with
  | "mv" :: operands => if operands.length = 2 then (operands.mapM Operand.read).map (CommandLine.mk .mv) else none
  | "cp" :: "-r" :: operands =>
    if operands.length = 1 ∨ operands.length = 2 then (operands.mapM Operand.read).map (CommandLine.mk .cp) else none
  | _ => none

section Reading
variable {src dest : String}

theorem operand_absolute {word : String} (absolute : startsWith word "/" = true) :
    Operand.read word = if Unquoted word then some (.literal word) else none := by
  unfold Operand.read
  rw [if_pos absolute]

theorem read_mv (operands : List String) (spelled : cutAt ' ' text = "mv" :: operands) :
    CommandLine.read text = if operands.length = 2 then (operands.mapM Operand.read).map (CommandLine.mk .mv) else none := by
  unfold CommandLine.read
  rw [spelled]
  rfl

theorem unquoted_word {word : String} (unquoted : Unquoted word) : cutAt ' ' word = [word] :=
  cutAt_single (fun blank => unquoted ' ' blank List.mem_cons_self)

-- Of a move between two paths from the root: it is read as such when both of them
-- are words, and not at all when one is not.
theorem read_move (fromRoot : startsWith src "/" = true) (toRoot : startsWith dest "/" = true) :
    CommandLine.read ("mv " ++ src ++ " " ++ dest) =
      if Unquoted src ∧ Unquoted dest then some ⟨.mv,[.literal src,.literal dest]⟩ else none := by
  have blank : " ".toList = [' '] := rfl
  have name : cutAt ' ' "mv" = ["mv"] := cutAt_single (by decide)
  have spelled : cutAt ' ' ("mv" ++ " " ++ src ++ " " ++ dest) = "mv" :: (cutAt ' ' src ++ cutAt ' ' dest) := by
    rw [cutAt_append blank,cutAt_append blank,name,List.append_assoc,List.singleton_append]
  have text : "mv " ++ src ++ " " ++ dest = "mv" ++ " " ++ src ++ " " ++ dest := rfl
  rw [text,read_mv _ spelled,List.length_append]
  by_cases two : (cutAt ' ' src).length+(cutAt ' ' dest).length = 2
  · have filled := List.length_pos_of_ne_nil (cutAt_nonempty ' ' src)
    have present := List.length_pos_of_ne_nil (cutAt_nonempty ' ' dest)
    have alone : cutAt ' ' src = [src] := cutAt_alone blank (by omega)
    have last : cutAt ' ' dest = [dest] := cutAt_alone blank (by omega)
    rw [if_pos two,alone,last,List.singleton_append,List.mapM_cons,List.mapM_cons,List.mapM_nil,operand_absolute fromRoot,
      operand_absolute toRoot]
    by_cases one : Unquoted src
    · by_cases other : Unquoted dest
      · rw [if_pos one,if_pos other,if_pos ⟨one,other⟩]
        rfl
      · have no : ¬ (Unquoted src ∧ Unquoted dest) := fun both => other both.2
        rw [if_pos one,if_neg other,if_neg no]
        rfl
    · have no : ¬ (Unquoted src ∧ Unquoted dest) := fun both => one both.1
      rw [if_neg one,if_neg no]
      rfl
  · rw [if_neg two,if_neg]
    intro both
    rw [unquoted_word both.1,unquoted_word both.2] at two
    exact two rfl

end Reading
end LiskMigrator.ShellWords
