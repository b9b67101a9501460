import LiskMigrator.Constants
import LiskMigrator.Library.Json

namespace LiskMigrator

-- What the framework's type promises of a v4 configuration: its five sections
-- are objects, and so is what is set under modules.pos.
structure ApplicationConfig where
  value : Json
  sections : ∀ name ∈ ["system","rpc","network","transactionPool","genesis"], ∃ fields, value.get name = some (.object fields)
  pos : ∀ pos, value.find ["modules","pos"] = some pos → ∃ fields, pos = .object fields

def logLevelPriority : List (String × Nat) := [("FATAL",0),("ERROR",1),("WARN",2),("INFO",3),("DEBUG",4),("TRACE",5)]

-- `value || ''`, of a property that may be undefined.
def orEmpty (value : Option Json) : Json :=
  match value with
  | none => .string ""
  | some value => if value.truthy then value else .string ""

-- String(value). The texts of numbers are only ever compared with the names of
-- the log levels, which no number spells.
mutual
def jsonText : Json → String
  | .null => "null"
  | .boolean value => toString value
  | .number value => toString value
  | .string value => value
  | .array elements => elementsText elements
  | .object _ => "[object Object]"

def elementsText : List Json → String
  | [] => ""
  | [last] => elementText last
  | first :: rest => elementText first ++ "," ++ elementsText rest

def elementText : Json → String
  | .null => ""
  | .boolean value => toString value
  | .number value => toString value
  | .string value => value
  | .array elements => elementsText elements
  | .object _ => "[object Object]"
end

-- toUpperCase, as far as it decides whether a text names a log level: the
-- dotless i is the one letter outside ASCII with a capital in such a name.
def upperCase (text : String) : String :=
  String.ofList (text.toList.map (fun c => if c = '\u0131' then 'I' else c.toUpper))

def logPriority (level : Option Json) : Nat :=
  (logLevelPriority.lookup (upperCase (jsonText (orEmpty level)))).getD 3

def getLogLevel (loggerConfig : Json) : String :=
  let highestLogPriority := max (logPriority (loggerConfig.get "fileLogLevel")) (logPriority (loggerConfig.get "consoleLogLevel"))
  match logLevelPriority.find? (fun level => level.2 = highestLogPriority) with
  | some (logLevel,_) => logLevel.map Char.toLower
  | none => "info"

-- `if (value) { … }`, of a property that may be undefined.
def whenTruthy (value : Option Json) (config : Json) (body : Json → Json) : Json :=
  match value with
  | none => config
  | some value => if value.truthy then body value else config

-- `if (value) { configV4.a.b = value }`, which migrateUserConfig does once for
-- every property that it maps.
def assignTruthy (place : List String) (value : Option Json) (config : Json) : Json :=
  whenTruthy value config (fun value => config.put place value)

def transactionPoolProperties : List String :=
  ["maxTransactions","maxTransactionsPerAccount","transactionExpiryTime","minEntranceFeePriority","minReplacementFeeDifference"]

-- The names of a network property in a v3 and in a v4 configuration.
def networkProperties : List (String × String) :=
  [("port","port"),("hostIp","host"),("maxOutboundConnections","maxOutboundConnections"),
    ("maxInboundConnections","maxInboundConnections"),("wsMaxPayload","wsMaxPayload"),("advertiseAddress","advertiseAddress")]

def migrateTransactionPool (configV3 configV4 : Json) : Json :=
  whenTruthy (configV3.get "transactionPool") configV4 (fun transactionPool =>
    transactionPoolProperties.foldl (fun config name =>
      assignTruthy ["transactionPool",name] (transactionPool.get name) config) configV4)

def migrateNetwork (configV3 configV4 : Json) : Json :=
  whenTruthy (configV3.get "network") configV4 (fun network =>
    networkProperties.foldl (fun config name => assignTruthy ["network",name.2] (network.get name.1) config) configV4)

def minimumCertifyHeight (snapshotHeight : Int) : Int :=
  snapshotHeight+1+(posInitRounds+numberActiveValidators-1)*(numberActiveValidators+numberStandbyValidators)

def isTruthy (value : Option Json) : Bool := value.any Json.truthy

def migrateUserConfig (configV3 : Json) (base : ApplicationConfig) (snapshotHeight : Int) : Json :=
  let configV4 := base.value
  let configV4 := if isTruthy (configV4.find ["system","version"]) then configV4
    else configV4.put ["system","version"] (.string defaultVersion)
  let configV4 := assignTruthy ["system","dataPath"] (configV3.get "rootPath") configV4
  let configV4 := whenTruthy (configV3.get "logger") configV4 (fun logger =>
    configV4.put ["system","logLevel"] (.string (getLogLevel logger)))
  let configV4 := migrateTransactionPool configV3 configV4
  let configV4 := whenTruthy (configV3.find ["rpc","mode"]) configV4 (fun mode => configV4.put ["rpc","modes"] (.array [mode]))
  let configV4 := migrateNetwork configV3 configV4
  let configV4 := configV4.put ["genesis","minimumCertifyHeight"] (.number (minimumCertifyHeight snapshotHeight))
  if isTruthy (configV4.find ["modules","pos"]) ∧ ¬ isTruthy (configV4.find ["modules","pos","maxBFTWeightCap"]) then
    configV4.put ["modules","pos","maxBFTWeightCap"] (.number maxBftWeightCap)
  else configV4

end LiskMigrator
