import LiskMigrator.Utils.Transaction

namespace LiskMigrator
open Text

def getDataFromDBStream (stream : List Entry) (decode : Bytes → Except Failure α) : Except Failure (List α) :=
  stream.mapM (fun entry => listener (decode entry.value))

def generatorPublicKey (packages : Packages) (value : Bytes) : Except Failure Bytes := do
  let header ← packages.codec.blockHeader value
  return header.generatorPublicKey

def getBlockPublicKeySet (packages : Packages) : Nat → Database → Int → Except Failure (List String) :=
  getPublicKeySet (generatorPublicKey packages) dbKeyBlocksId

-- The digits of a number from the low one up, with an underscore behind every three.
def addNumericalSeparator : List Char → List Char
  | a :: b :: c :: d :: rest => a :: b :: c :: '_' :: addNumericalSeparator (d :: rest)
  | digits => digits

-- How node's range errors write what they have received.
def received (num : Int) : String :=
  if 2^32 < num then String.ofList (addNumericalSeparator (toString num).toList.reverse).reverse else toString num

example : received (2^32+1) = "4_294_967_297" := by decide +kernel

-- Of a number that is no bigint: the text of its four bytes, the high one first.
-- writeUInt32BE refuses what does not fit into them.
def formatInt (num : Int) : Except Failure String :=
  if num < 0 then .error (.thrown "Negative number cannot be formatted")
  else if 2^32 ≤ num then
    .error (.thrown s!"The value of \"value\" is out of range. It must be >= 0 and <= 4294967295. Received {received num}")
  else .ok (latin1 ([num / 2^24,num / 2^16,num / 2^8,num].map (fun part => UInt8.ofNat part.toNat)))

def getBlockHeaderByHeight (packages : Packages) (db : Database) (height : Int) : Except Failure (BlockHeader × Bytes) := do
  let stringHeight ← formatInt height
  let id ← db.get (bufferFrom (dbKeyBlocksHeight ++ ":" ++ stringHeight))
  let blockHeaderBuffer ← db.get (databaseKey dbKeyBlocksId id)
  let blockHeader ← packages.codec.blockHeader blockHeaderBuffer
  return (blockHeader,id)

end LiskMigrator
