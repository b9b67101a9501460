import LiskMigrator.Constants

namespace LiskMigrator
open Text

-- The name that node puts in the `code` of an error of its own, as in ENOENT.
structure ErrorName where
  text : String
  named : ∃ c rest, text.toList = c :: rest ∧ 'A' ≤ c
deriving DecidableEq

-- The status of a child process that failed.
abbrev ExitStatus := { status : Nat // 0 < status }

inductive ExecCode where
  | exit (status : ExitStatus)
  | killed
  | failed (name : ErrorName)
deriving DecidableEq

-- What a promise is rejected with by node or a package, and by execAsync.
structure Fault where
  message : String
  code : Option ErrorName

structure ExecFault where
  message : String
  code : ExecCode

-- Everything that can end run: what it can catch, and a rejection that no promise
-- hands on, with which node ends the process.
inductive Thrown where
  | migratorException (message : String) (code : ErrorCode)
  | error (message : String) (code : Option ErrorName)
  | cliError (message : String)
  | childProcess (message : String) (code : ExecCode)
  | unhandled (message : String)
deriving DecidableEq

def Fault.thrown (fault : Fault) : Thrown := .error fault.message fault.code

def ExecFault.thrown (fault : ExecFault) : Thrown := .childProcess fault.message fault.code

namespace Thrown

def message : Thrown → String
  | .migratorException message _ => message
  | .error message _ => message
  | .cliError message => message
  | .childProcess message _ => message
  | .unhandled message => message

def caught : Thrown → Bool
  | .unhandled _ => false
  | _ => true

-- `${error.code}`
def code : Thrown → String
  | .migratorException _ code => decimal code.value
  | .error _ none => "undefined"
  | .error _ (some name) => name.text
  | .cliError _ => "undefined"
  | .childProcess _ (.exit status) => decimal status
  | .childProcess _ .killed => "null"
  | .childProcess _ (.failed name) => name.text
  | .unhandled _ => "undefined"

-- err instanceof MigratorException ? err.code : code
def codeOr (code : ErrorCode) : Thrown → ErrorCode
  | .migratorException _ own => own
  | _ => code

end Thrown

-- Number(text) of such a code: NaN, here none, unless it is written in digits.
def number (text : String) : Option Nat := readDecimal text

-- codes.includes(code), which no code list says of NaN.
def includesCode (codes : List ErrorCode) (code : Option Nat) : Bool := codes.any (fun known => some known.value == code)

@[simp] theorem number_decimal (n : Nat) : number (decimal n) = some n := readDecimal_decimal n

theorem number_name (name : ErrorName) : number name.text = none := by
  obtain ⟨text,c,rest,spelled,letter⟩ := name
  have plain : c.isDigit = false := by
    simp only [Char.isDigit,Char.le_def,UInt32.le_iff_toNat_le,Bool.and_eq_false_iff,decide_eq_false_iff_not] at letter ⊢
    right
    change 65 ≤ c.val.toNat at letter
    change ¬ c.val.toNat ≤ 57
    omega
  simp [number,readDecimal,spelled,plain]

theorem number_undefined : number "undefined" = none := by decide

theorem number_null : number "null" = none := by decide

-- The errors whose code is no number at all.
def Uncoded (e : Thrown) : Prop := number e.code = none

@[simp] theorem uncoded_fault (fault : Fault) : Uncoded fault.thrown := by
  obtain ⟨message,code⟩ := fault
  cases code with
  | none => exact number_undefined
  | some name => exact number_name name

@[simp] theorem uncoded_error (message : String) : Uncoded (.error message none) := number_undefined

@[simp] theorem migratorException_number (message : String) (code : ErrorCode) :
    number (Thrown.migratorException message code).code = some code.value := number_decimal code.value

end LiskMigrator
