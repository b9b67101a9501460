import LiskMigrator.Packages
import LiskMigrator.Library.Collections

namespace LiskMigrator
open Text Collections Outcome

def keyString (key : Bytes) : String := latin1 key

-- The loop of incrementOne, which has the bytes from position i on behind it.
def carry (copiedInput : Bytes) : Nat → Except Failure Bytes
  | 0 => .error (.thrown "input is already maximum at the size")
  | i+1 =>
    let sum := (copiedInput.getD i 0).toNat+1
    let copiedInput := copiedInput.set i (UInt8.ofNat (sum &&& 0xff))
    if sum ≤ 0xff then .ok copiedInput else carry copiedInput i

def incrementOne (input : Bytes) : Except Failure Bytes := carry input input.length

theorem incrementOne_last (front : Bytes) (last : UInt8) (small : last.toNat < 255) :
    incrementOne (front ++ [last]) = .ok (front ++ [UInt8.ofNat (last.toNat+1)]) := by
  have masked : (last.toNat+1) &&& 255 = last.toNat+1 := by
    rw [Nat.and_two_pow_sub_one_eq_mod _ 8]
    omega
  simp [incrementOne,carry,masked]
  omega

-- The bounds of a key scan, and the keys between them.
def databaseKey (prefixKey : String) (id : Bytes) : Bytes := bufferFrom (prefixKey ++ ":" ++ keyString id)

def firstKey (prefixKey : String) : Bytes := databaseKey prefixKey (List.replicate 32 0)

def lastKey (prefixKey : String) : Bytes := databaseKey prefixKey (List.replicate 32 255)

-- getBlockPublicKeySet and getTransactionPublicKeySet are the same loop over
-- two kinds of records: `publicKeyOf` decodes a record and gives its key.
def fetchPage (db : Database) (prefixKey : String) (pageSize : Int) (startingKey : Bytes) : Except Failure (List Entry) :=
  db.createReadStream ⟨startingKey,lastKey prefixKey,some pageSize⟩

def addPublicKey (publicKeyOf : Bytes → Except Failure Bytes) (result : List String) (entry : Entry) :
    Except Failure (List String) := do
  let publicKey ← listener (publicKeyOf entry.value)
  return add result (toHex publicKey)

def startAfter (entry : Entry) : Except Failure Bytes := incrementOne entry.key

def getPublicKeySet (publicKeyOf : Bytes → Except Failure Bytes) (prefixKey : String) (rounds : Nat) (db : Database)
    (pageSize : Int) : Except Failure (List String) :=
  Paging.scan (fetchPage db prefixKey pageSize) (addPublicKey publicKeyOf) startAfter .unfinished rounds (firstKey prefixKey) []

def senderPublicKey (packages : Packages) (value : Bytes) : Except Failure Bytes := do
  let tx ← packages.codec.transaction value
  return tx.senderPublicKey

def getTransactionPublicKeySet (packages : Packages) : Nat → Database → Int → Except Failure (List String) :=
  getPublicKeySet (senderPublicKey packages) dbKeyTransactionsId

end LiskMigrator
