import Mathlib.Data.UInt
import LiskMigrator.Library.Bytes
import LiskMigrator.Library.PrefixCode

namespace LiskMigrator.Text
open Std PrefixCode

-- Buffer.from(text): the UTF-8 bytes of the text.
def bufferFrom (text : String) : Bytes := text.toList.flatMap String.utf8EncodeChar

-- Buffer.toString('binary'): every byte becomes the Latin-1 character it names.
def latin1 (bytes : Bytes) : String := String.ofList (bytes.map (fun byte => Char.ofNat byte.toNat))

def latin1Code (byte : UInt8) : Bytes := String.utf8EncodeChar (Char.ofNat byte.toNat)

theorem bufferFrom_append (one two : String) : bufferFrom (one ++ two) = bufferFrom one ++ bufferFrom two := by
  simp [bufferFrom]

theorem bufferFrom_latin1 (bytes : Bytes) : bufferFrom (latin1 bytes) = bytes.flatMap latin1Code := by
  simp only [bufferFrom,latin1,String.toList_ofList,List.flatMap_map]
  rfl

theorem character (byte : UInt8) : (Char.ofNat byte.toNat).val.toNat = byte.toNat := by
  have valid : byte.toNat.isValidChar := .inl (Nat.lt_trans byte.toNat_lt (by decide))
  rw [Char.ofNat,dif_pos valid]
  rfl

-- A byte below 0x80 is written as itself, any other one as two bytes.
theorem latin1Code_ascii (byte : UInt8) (low : byte.toNat < 128) : latin1Code byte = [byte] := by
  simp only [latin1Code,String.utf8EncodeChar,character,if_pos (Nat.le_of_lt_succ low),UInt8.ofNat_toNat]

theorem latin1Code_pair (byte : UInt8) (high : 128 ≤ byte.toNat) :
    latin1Code byte = [UInt8.ofNat (byte.toNat / 64+192),UInt8.ofNat (byte.toNat % 64+128)] := by
  have bound := byte.toNat_lt
  have small : byte.toNat / 64 % 32 = byte.toNat / 64 := by omega
  simp only [latin1Code,String.utf8EncodeChar,character,small]
  rw [if_neg (by omega),if_pos (by omega)]

example : bufferFrom (latin1 [1,200]) = [1,195,136] := by decide

theorem compare_byte {a b : UInt8} : compare a b = .lt ↔ a.toNat < b.toNat := by
  rw [compare_eq_lt,UInt8.lt_iff_toNat_lt]

theorem latin1Code_splits (a b : UInt8) (less : compare a b = .lt) : Splits (latin1Code a) (latin1Code b) := by
  have smaller := compare_byte.mp less
  have boundA := a.toNat_lt
  have boundB := b.toNat_lt
  by_cases lowB : b.toNat < 128
  · rw [latin1Code_ascii a (by omega),latin1Code_ascii b lowB]
    exact ⟨[],a,b,[],[],rfl,rfl,less⟩
  · rw [latin1Code_pair b (by omega)]
    by_cases lowA : a.toNat < 128
    · rw [latin1Code_ascii a lowA]
      refine ⟨[],a,_,[],_,rfl,rfl,compare_byte.mpr ?_⟩
      rw [UInt8.toNat_ofNat']
      omega
    · rw [latin1Code_pair a (by omega)]
      by_cases same : a.toNat / 64 = b.toNat / 64
      · refine ⟨[UInt8.ofNat (b.toNat / 64+192)],_,_,[],[],by rw [same]; rfl,rfl,compare_byte.mpr ?_⟩
        rw [UInt8.toNat_ofNat',UInt8.toNat_ofNat']
        omega
      · refine ⟨[],_,_,_,_,rfl,rfl,compare_byte.mpr ?_⟩
        rw [UInt8.toNat_ofNat',UInt8.toNat_ofNat']
        omega

theorem latin1_letters : LetterCode latin1Code where
  splits := latin1Code_splits
  nonempty byte := by
    by_cases low : byte.toNat < 128
    · simp [latin1Code_ascii byte low]
    · simp [latin1Code_pair byte (by omega)]

-- No byte of a character ends above 0xbf, so adding one to it never carries.
theorem latin1Code_last (byte : UInt8) : ∃ front last, latin1Code byte = front ++ [last] ∧ last.toNat < 192 := by
  have bound := byte.toNat_lt
  by_cases low : byte.toNat < 128
  · exact ⟨[],byte,latin1Code_ascii byte low,by omega⟩
  · refine ⟨[_],_,latin1Code_pair byte (by omega),?_⟩
    rw [UInt8.toNat_ofNat']
    omega

end LiskMigrator.Text
