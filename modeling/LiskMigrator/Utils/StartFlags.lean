import LiskMigrator.Library.Words

namespace LiskMigrator
open Words

-- What `\s` matches.
def whitespace (c : Char) : Bool :=
  c ∈ ['\t','\n','\x0b','\x0c','\r',' ','\u00a0','\u1680','\u2000','\u2001','\u2002','\u2003','\u2004','\u2005','\u2006',
    '\u2007','\u2008','\u2009','\u200a','\u2028','\u2029','\u202f','\u205f','\u3000','\ufeff']

def lowerCase (c : Char) : Bool := 'a' ≤ c && c ≤ 'z'

-- `[a-z]+(?:-[a-z]+)*` up to the end; `letter` tells whether a dash may follow.
def dashedWords : Bool → List Char → Bool
  | letter,[] => letter
  | letter,c :: rest => if lowerCase c then dashedWords true rest else c == '-' && letter && dashedWords false rest

-- The `$` of the source stands in the second alternative only: whatever comes
-- after `-x` is not looked at.
def flagPattern : List Char → Bool
  | '-' :: '-' :: rest => dashedWords false rest
  | '-' :: c :: _ => lowerCase c
  | _ => false

namespace Regex

def inputSeparator (c : Char) : Bool := whitespace c || c == '='

def flag (input : String) : Bool := flagPattern input.toList

def networkFlag (input : String) : Bool := startsWith input "-n" || startsWith input "--network"

def optionOrValue (text : String) : Bool := endsWith text "=<option>" || endsWith text "=<value>"

end Regex

def correspondingFlag (allowedFlags : List String) (input : String) : Option String :=
  allowedFlags.find? (fun f => includes f input)

-- The loop of validateStartCommandFlags over the inputs that are left.
def validateInputs (allowedFlags : List String) : Bool → List String → Bool
  | _,[] => true
  | isOptionOrValueExpected,input :: rest =>
    if Regex.networkFlag input then false
    else if Regex.flag input then
      match correspondingFlag allowedFlags input with
      | none => false
      | some found =>
        if isOptionOrValueExpected || rest.isEmpty then false
        else validateInputs allowedFlags (Regex.optionOrValue found) rest
    else if isOptionOrValueExpected then validateInputs allowedFlags false rest
    else false

def validateStartCommandFlags (allowedFlags : List String) (userInputString : String) : Bool :=
  validateInputs allowedFlags false (split Regex.inputSeparator userInputString)

example : validateStartCommandFlags ["-c, --config=<value>","--api-ws "] "--api-ws -c=./a.json" = true := by decide

end LiskMigrator
