import LiskMigrator.Requests

namespace LiskMigrator
open Interaction

variable (world : World migrator)

def getAPIClient (liskCorePath : String) (isForceInstantiate : Bool) : Migration Unit := do
  let store ← readStore
  if liskCorePath ∉ store.clientCache ∨ isForceInstantiate then
    settled (ask world (.createIPCClient liskCorePath))
    update (fun store => { store with clientCache := liskCorePath :: store.clientCache })

def getNodeInfo (liskCorePath : String) : Migration NodeInfo := do
  getAPIClient world liskCorePath false
  settled (ask world (.getNodeInfo liskCorePath))

-- A server that cannot listen because the port is in use is no failure.
def isPortAvailable (port : Json) : Migration Bool := do
  match ← ask world (.listen port) with
  | .ok _ => return true
  | .error fault =>
    if fault.code.any (fun name => name.text = "EADDRINUSE") then return false
    else throw fault.thrown

-- Destructuring the undefined that `find` gives for a name no network has.
def notIterable : String := "undefined is not iterable (cannot read property Symbol(Symbol.iterator))"

def getNetworkIdentifier (network : Option String) (liskCoreV3DataPath : String) : Migration String :=
  match network with
  | some network =>
    if network = "" then do
      let nodeInfo ← getNodeInfo world liskCoreV3DataPath
      return nodeInfo.networkIdentifier
    else match networkConstant.find? (fun entry => entry.2.name = network) with
      | some (networkIdentifier,_) => pure networkIdentifier
      | none => raise notIterable
  | none => do
    let nodeInfo ← getNodeInfo world liskCoreV3DataPath
    return nodeInfo.networkIdentifier

end LiskMigrator
