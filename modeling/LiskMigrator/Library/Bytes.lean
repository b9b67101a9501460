import Mathlib.Algebra.GroupWithZero.Nat
import Mathlib.Data.List.Sort
import Std.Data.String.ToNat

namespace LiskMigrator

abbrev Bytes := List UInt8

namespace Text

-- Buffer.toString('hex'): two lower-case digits a byte, the high half first.
def hexPair (byte : UInt8) : List Char := [Nat.digitChar (byte.toNat / 16),Nat.digitChar (byte.toNat % 16)]

def toHex (bytes : Bytes) : String := String.ofList (bytes.flatMap hexPair)

def hexValue (c : Char) : Option Nat :=
  if '0' ≤ c ∧ c ≤ '9' then some (c.toNat - 48)
  else if 'a' ≤ c ∧ c ≤ 'f' then some (c.toNat - 87)
  else if 'A' ≤ c ∧ c ≤ 'F' then some (c.toNat - 55)
  else none

-- Buffer.from(text,'hex') keeps the pairs before the first one that is not
-- hexadecimal; a single digit at the end is dropped.
def readPairs : List Char → Bytes
  | high :: low :: rest =>
    match hexValue high,hexValue low with
    | some h,some l => UInt8.ofNat (16*h+l) :: readPairs rest
    | _,_ => []
  | _ => []

def fromHex (text : String) : Bytes := readPairs text.toList

theorem hexValue_digit (d : Nat) (small : d < 16) : hexValue (Nat.digitChar d) = some d := by
  revert d
  decide

theorem readPairs_pairs (bytes : Bytes) : readPairs (bytes.flatMap hexPair) = bytes := by
  induction bytes with
  | nil => rfl
  | cons byte rest ih =>
    have bound := byte.toNat_lt
    have high := hexValue_digit (byte.toNat / 16) (by omega)
    have low := hexValue_digit (byte.toNat % 16) (by omega)
    have halves : 16*(byte.toNat / 16)+byte.toNat % 16 = byte.toNat := by omega
    simp only [List.flatMap_cons,hexPair,List.cons_append,List.nil_append,readPairs,high,low,halves]
    rw [UInt8.ofNat_toNat,ih]

@[simp] theorem fromHex_toHex (bytes : Bytes) : fromHex (toHex bytes) = bytes := by
  simp only [fromHex,toHex,String.toList_ofList,readPairs_pairs]

theorem toHex_injective : Function.Injective toHex :=
  Function.LeftInverse.injective fromHex_toHex

@[simp] theorem toHex_inj : toHex one = toHex two ↔ one = two := toHex_injective.eq_iff

-- String(n) of a bigint and the reading of such a text as an integer. A text
-- with any other character in it is read as no integer at all.
def decimal (n : Nat) : String := String.ofList (Nat.toDigits 10 n)

def readDecimal (text : String) : Option Nat :=
  if text.toList ≠ [] ∧ text.toList.all Char.isDigit then some (Nat.ofDigitChars 10 text.toList 0) else none

@[simp] theorem readDecimal_decimal (n : Nat) : readDecimal (decimal n) = some n := by
  have digits : (Nat.toDigits 10 n).all Char.isDigit = true :=
    List.all_eq_true.mpr (fun c member => Nat.isDigit_of_mem_toDigits (by decide) (by decide) member)
  simp [readDecimal,decimal,digits,Nat.ofDigitChars_ten_toDigits]

@[simp] theorem decimal_inj : decimal m = decimal n ↔ m = n := by
  constructor
  · intro same
    have read := congrArg readDecimal same
    simpa using read
  · rintro rfl; rfl

-- The sum of amounts that are written as decimals, if all of them are.
def readSum (texts : List String) : Option Nat := (texts.mapM readDecimal).map List.sum

theorem readSum_cons (text : String) (texts : List String) :
    readSum (text :: texts) = (readDecimal text).bind (fun n => (readSum texts).map (n+·)) := by
  unfold readSum
  rw [List.mapM_cons]
  cases readDecimal text <;> cases texts.mapM readDecimal <;> simp

theorem readSum_decimals (amounts : List Nat) : readSum (amounts.map decimal) = some amounts.sum := by
  induction amounts with
  | nil => rfl
  | cons amount rest ih => rw [List.map_cons,readSum_cons,ih,readDecimal_decimal,List.sum_cons]; rfl

theorem readSum_append {one two : List String} (first : readSum one = some m) (second : readSum two = some n) :
    readSum (one ++ two) = some (m+n) := by
  induction one generalizing m with
  | nil =>
    cases first
    simpa using second
  | cons text rest ih =>
    rw [readSum_cons] at first
    rw [List.cons_append,readSum_cons]
    cases read : readDecimal text with
    | none => simp [read] at first
    | some value =>
      cases tail : readSum rest with
      | none => simp [read,tail] at first
      | some total =>
        simp only [read,tail,Option.bind_some,Option.map_some,Option.some.injEq] at first ⊢
        rw [ih tail,Option.map_some,← first,Nat.add_assoc]

theorem readSum_flatMap {texts : R → List String} {weight : R → Nat} {rows : List R}
    (each : ∀ row ∈ rows, readSum (texts row) = some (weight row)) :
    readSum (rows.flatMap texts) = some (rows.map weight).sum := by
  induction rows with
  | nil => rfl
  | cons row rest ih =>
    rw [List.flatMap_cons,List.map_cons,List.sum_cons]
    exact readSum_append (each row List.mem_cons_self) (ih (fun r member => each r (List.mem_cons_of_mem row member)))

end Text
end LiskMigrator
