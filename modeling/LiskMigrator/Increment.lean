import LiskMigrator.Library.Numerals
import LiskMigrator.Utils.Transaction

namespace LiskMigrator
open Std Text PrefixCode Numerals Outcome

-- incrementOne once more, on the buffers of the process: a Buffer is known by
-- its place, and whoever holds it sees what is written to it.
namespace Buffers

abbrev Call (α : Type) := Step Failure (List Bytes) α

def alloc (size : Nat) : Call Nat := fun buffers => .ok buffers.length (buffers ++ [List.replicate size 0])

def content (buffer : Nat) : Call Bytes := fun buffers => .ok (buffers.getD buffer []) buffers

def store (buffer : Nat) (bytes : Bytes) : Call Unit := fun buffers => .ok () (buffers.set buffer bytes)

def copy (source target : Nat) : Call Unit := do
  let written ← content source
  let replaced ← content target
  store target (written.take replaced.length ++ replaced.drop written.length)

def carry (copiedInput : Nat) : Nat → Call Nat
  | 0 => throw (.thrown "input is already maximum at the size")
  | i+1 => do
    let bytes ← content copiedInput
    let sum := (bytes.getD i 0).toNat+1
    store copiedInput (bytes.set i (UInt8.ofNat (sum &&& 0xff)))
    if sum ≤ 0xff then return copiedInput else carry copiedInput i

def incrementOne (input : Nat) : Call Nat := do
  let bytes ← content input
  let copiedInput ← alloc bytes.length
  copy input copiedInput
  carry copiedInput bytes.length

theorem content_last (buffers : List Bytes) (bytes : Bytes) :
    content buffers.length (buffers ++ [bytes]) = .ok bytes (buffers ++ [bytes]) := by
  unfold content
  rw [List.getD_eq_getElem?_getD,List.getElem?_concat_length,Option.getD_some]

theorem store_last (buffers : List Bytes) (before bytes : Bytes) :
    store buffers.length bytes (buffers ++ [before]) = .ok () (buffers ++ [bytes]) := by
  unfold store
  rw [List.set_append_right _ _ (Nat.le_refl _),Nat.sub_self,List.set_cons_zero]

theorem content_held (held : buffers[input]? = some bytes) (later : List Bytes) :
    content input (buffers ++ later) = .ok bytes (buffers ++ later) := by
  obtain ⟨inside,_⟩ := List.getElem?_eq_some_iff.mp held
  unfold content
  rw [List.getD_eq_getElem?_getD,List.getElem?_append_left inside,held,Option.getD_some]

-- The loop writes to the copy alone, and the bytes it leaves there are those of
-- the loop over bytes.
theorem carry_ok (ran : LiskMigrator.carry bytes i = .ok result) (buffers : List Bytes) :
    carry buffers.length i (buffers ++ [bytes]) = .ok buffers.length (buffers ++ [result]) := by
  induction i generalizing bytes with
  | zero => cases ran
  | succ i ih =>
    unfold LiskMigrator.carry at ran
    unfold carry
    rw [step_next _ (content_last buffers bytes),step_next _ (store_last buffers bytes _)]
    by_cases fits : (bytes.getD i 0).toNat+1 ≤ 0xff
    · rw [if_pos fits] at ran ⊢
      cases ran
      rfl
    · rw [if_neg fits] at ran ⊢
      exact ih ran

theorem carry_error {failure : Failure} (ran : LiskMigrator.carry bytes i = .error failure) (buffers : List Bytes) :
    ∃ copied, carry buffers.length i (buffers ++ [bytes]) = .error failure (buffers ++ [copied]) := by
  induction i generalizing bytes with
  | zero =>
    cases ran
    exact ⟨bytes,rfl⟩
  | succ i ih =>
    unfold LiskMigrator.carry at ran
    unfold carry
    rw [step_next _ (content_last buffers bytes),step_next _ (store_last buffers bytes _)]
    by_cases fits : (bytes.getD i 0).toNat+1 ≤ 0xff
    · rw [if_pos fits] at ran
      cases ran
    · rw [if_neg fits] at ran ⊢
      exact ih ran

theorem incrementOne_copies (held : buffers[input]? = some bytes) :
    incrementOne input buffers = carry buffers.length bytes.length (buffers ++ [bytes]) := by
  have read : content input buffers = .ok bytes buffers := by
    have appended := content_held held []
    rwa [List.append_nil] at appended
  have copied : copy input buffers.length (buffers ++ [List.replicate bytes.length 0]) = .ok () (buffers ++ [bytes]) := by
    unfold copy
    rw [step_next _ (content_held held _),step_next _ (content_last buffers _),store_last,List.length_replicate,List.take_length,
      List.drop_eq_nil_of_le (by rw [List.length_replicate]),List.append_nil]
  have allocated : alloc bytes.length buffers = .ok buffers.length (buffers ++ [List.replicate bytes.length 0]) := rfl
  unfold incrementOne
  rw [step_next _ read,step_next _ allocated,step_next _ copied]

end Buffers
-- A byte below 0xff is raised, and the 0xff bytes behind it start anew.
inductive Raised : Bytes → Bytes → Prop where
  | raise (front : Bytes) (byte : UInt8) (n : Nat) (small : byte.toNat < 255) :
      Raised (front ++ byte :: List.replicate n 255) (front ++ UInt8.ofNat (byte.toNat+1) :: List.replicate n 0)

theorem Raised.carried (raised : Raised input result) : Raised (input ++ [255]) (result ++ [0]) := by
  cases raised with
  | raise front byte n small =>
    have more (last : UInt8) : List.replicate n last ++ [last] = List.replicate (n+1) last := List.replicate_succ'.symm
    rw [List.append_assoc,List.cons_append,more,List.append_assoc,List.cons_append,more]
    exact .raise front byte (n+1) small

theorem masked_sum (byte : UInt8) : (byte.toNat+1) &&& 0xff = (byte.toNat+1) % 256 := Nat.and_two_pow_sub_one_eq_mod _ 8

-- What the loop has behind it is zero, what is ahead of it is as it was.
theorem carry_exact (ahead : Bytes) (passed : Nat) :
    (∃ result, Raised ahead result ∧
      carry (ahead ++ List.replicate passed 0) ahead.length = .ok (result ++ List.replicate passed 0)) ∨
    ahead = List.replicate ahead.length 255 ∧
      carry (ahead ++ List.replicate passed 0) ahead.length = .error (.thrown "input is already maximum at the size") := by
  induction ahead using List.reverseRecOn generalizing passed with
  | nil => exact .inr ⟨rfl,rfl⟩
  | append_singleton front byte ih =>
    have position : (front ++ [byte]).length = front.length+1 := List.length_append
    have shape : front ++ [byte] ++ List.replicate passed 0 = front ++ byte :: List.replicate passed 0 := by simp
    have current : (front ++ byte :: List.replicate passed 0).getD front.length 0 = byte := by simp
    have written (next : UInt8) : (front ++ byte :: List.replicate passed 0).set front.length next =
        front ++ next :: List.replicate passed 0 := by simp
    have bound := byte.toNat_lt
    rw [position,shape,carry,current,written,masked_sum]
    by_cases small : byte.toNat < 255
    · rw [if_pos (by omega),Nat.mod_eq_of_lt (by omega)]
      exact .inl ⟨_,.raise front byte 0 small,by simp⟩
    · have highest : byte = 255 := UInt8.toNat_inj.mp (by change byte.toNat = 255; omega)
      subst highest
      rw [if_neg (by decide)]
      rcases ih (passed+1) with raised | highest
      · obtain ⟨result,raised,ran⟩ := raised
        refine .inl ⟨result ++ [0],raised.carried,?_⟩
        rw [List.append_assoc]
        exact ran
      · refine .inr ⟨?_,highest.2⟩
        rw [List.replicate_succ',← highest.1]

def bigEndian (bytes : Bytes) : Nat := value 256 UInt8.toNat bytes

theorem byte_system : System 256 UInt8.toNat where
  positive := by decide
  below := UInt8.toNat_lt
  compares a b := by
    cases compared : compare a b with
    | lt => exact (Nat.compare_eq_lt.mpr (compare_byte.mp compared)).symm
    | eq => rw [LawfulEqOrd.eq_of_compare compared,Nat.compare_eq_eq.mpr rfl]
    | gt => exact (Nat.compare_eq_gt.mpr (compare_byte.mp (OrientedCmp.lt_of_gt compared))).symm

theorem highest_bytes (n : Nat) : bigEndian (List.replicate n 255)+1 = 256^n :=
  value_highest (rfl : (255 : UInt8).toNat+1 = 256) n

theorem raised_byte (byte : UInt8) (small : byte.toNat < 255) : (UInt8.ofNat (byte.toNat+1)).toNat = byte.toNat+1 := by
  rw [UInt8.toNat_ofNat']
  omega

theorem Raised.length (raised : Raised input result) : result.length = input.length := by
  cases raised with
  | raise front byte n small => simp only [List.length_append,List.length_cons,List.length_replicate]

theorem Raised.value (raised : Raised input result) : bigEndian result = bigEndian input+1 := by
  cases raised with
  | raise front byte n small =>
    have highest : Numerals.value 256 UInt8.toNat (List.replicate n 255)+1 = 256^n := highest_bytes n
    have zeros : Numerals.value 256 UInt8.toNat (List.replicate n 0) = 0 :=
      value_zeros (rfl : (0 : UInt8).toNat = 0) n
    unfold bigEndian
    rw [value_append,value_append,value_cons,value_cons,raised_byte byte small,zeros,List.length_replicate,Nat.succ_mul]
    simp only [List.length_cons,List.length_replicate]
    omega

-- Behind the input there is nothing before the result but what extends it.
theorem Raised.between (raised : Raised input result) (last : input.getLast? = some byte) (small : byte ≠ 255) (other : Bytes) :
    compare input other = .lt ∧ compare other result = .lt ↔ ∃ next rest, other = input ++ next :: rest := by
  cases raised with
  | raise front raised n below =>
    cases n with
    | succ n =>
      rw [List.replicate_succ',← List.cons_append,← List.append_assoc,List.getLast?_concat] at last
      exact absurd (Option.some.inj last).symm small
    | zero =>
      have less : compare raised (UInt8.ofNat (raised.toNat+1)) = .lt := by
        rw [compare_byte,raised_byte raised below]
        exact Nat.lt_succ_self _
      have parts : Splits (front ++ [raised]) (front ++ [UInt8.ofNat (raised.toNat+1)]) :=
        ⟨front,_,_,[],[],rfl,rfl,less⟩
      constructor
      · intro given
        obtain ⟨above,before⟩ := given
        rcases less_cases above with splits | extension
        · have passed := splits.leap (fun letter greater => by
            have larger := compare_byte.mp greater
            rw [isLE_compare,UInt8.le_iff_toNat_le,raised_byte raised below]
            exact larger)
          exact absurd passed (OrientedCmp.not_isLE_of_lt before)
        · exact extension
      · intro given
        obtain ⟨next,rest,rfl⟩ := given
        refine ⟨?_,?_⟩
        · have longer := compare_append (front ++ [raised]) [] (next :: rest)
          rwa [List.append_nil] at longer
        · have extended := (parts.extended (next :: rest) []).less
          rwa [List.append_nil] at extended

-- What incrementOne is for: the next buffer of the same length.
structure Successor (input result : Bytes) : Prop where
  length : result.length = input.length
  value : bigEndian result = bigEndian input+1
  above : compare input result = .lt
  least : ∀ other : Bytes, other.length = input.length → compare input other = .lt → (compare result other).isLE
  between : ∀ byte, input.getLast? = some byte → byte ≠ 255 → ∀ other : Bytes,
    compare input other = .lt ∧ compare other result = .lt ↔ ∃ next rest, other = input ++ next :: rest

theorem Raised.successor (raised : Raised input result) : Successor input result where
  length := raised.length
  value := raised.value
  above := by
    have bigger : bigEndian input < bigEndian result := raised.value ▸ Nat.lt_succ_self _
    exact (value_less byte_system raised.length.symm).mpr bigger
  least other same greater := by
    have bigger : bigEndian input < bigEndian other := (value_less byte_system same.symm).mp greater
    have bound : bigEndian result ≤ bigEndian other := raised.value ▸ bigger
    rw [compare_value byte_system (raised.length.trans same.symm)]
    exact Nat.isLE_compare.mpr bound
  between _ last small other := raised.between last small other

theorem incrementOne_cases (input : Bytes) : (∃ result, incrementOne input = .ok result ∧ Successor input result) ∨
    incrementOne input = .error (.thrown "input is already maximum at the size") ∧ bigEndian input+1 = 256^input.length := by
  have looped := carry_exact input 0
  simp only [List.replicate_zero,List.append_nil] at looped
  rcases looped with raised | highest
  · obtain ⟨result,raised,ran⟩ := raised
    exact .inl ⟨result,ran,raised.successor⟩
  · refine .inr ⟨highest.2,?_⟩
    rw [highest.1,List.length_replicate]
    exact highest_bytes _

theorem incrementOne_successor {buffers : List Bytes} (held : buffers[input]? = some bytes) :
    ((∃ failure left, Buffers.incrementOne input buffers = .error failure left) ↔ bigEndian bytes+1 = 256^bytes.length) ∧
    (∀ failure left, Buffers.incrementOne input buffers = .error failure left →
      failure = .thrown "input is already maximum at the size" ∧ buffers <+: left) ∧
    ∀ copied left, Buffers.incrementOne input buffers = .ok copied left →
      ∃ result, copied = buffers.length ∧ left = buffers ++ [result] ∧ incrementOne bytes = .ok result ∧ Successor bytes result := by
  rw [Buffers.incrementOne_copies held]
  rcases incrementOne_cases bytes with raised | highest
  · obtain ⟨result,ran,successor⟩ := raised
    have bound : bigEndian result < 256^result.length := value_bound byte_system result
    rw [successor.value,successor.length] at bound
    rw [Buffers.carry_ok ran]
    refine ⟨⟨fun given => ?_,fun highest => absurd highest (by omega)⟩,?_,?_⟩
    · obtain ⟨_,_,failed⟩ := given
      cases failed
    · intro _ _ failed
      cases failed
    · intro copied left same
      cases same
      exact ⟨result,rfl,rfl,ran,successor⟩
  · obtain ⟨copied,failed⟩ := Buffers.carry_error highest.1 buffers
    rw [failed]
    refine ⟨⟨fun _ => highest.2,fun _ => ⟨_,_,rfl⟩⟩,?_,?_⟩
    · intro failure left same
      cases same
      exact ⟨rfl,List.prefix_append buffers [copied]⟩
    · intro _ _ same
      cases same

theorem incrementOne_sample :
    ((∃ failure left, Buffers.incrementOne 0 [[1,255]] = .error failure left) ↔ bigEndian [1,255]+1 = 256^2) ∧
    (∀ failure left, Buffers.incrementOne 0 [[1,255]] = .error failure left →
      failure = .thrown "input is already maximum at the size" ∧ [[1,255]] <+: left) ∧
    ∀ copied left, Buffers.incrementOne 0 [[1,255]] = .ok copied left →
      ∃ result, copied = 1 ∧ left = [[1,255]] ++ [result] ∧ incrementOne [1,255] = .ok result ∧ Successor [1,255] result :=
  incrementOne_successor rfl

end LiskMigrator
