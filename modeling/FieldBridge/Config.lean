/-
  Configuration.

  The bridge is configured by fourteen variables, all with the same stem.  Each sets one field; a
  variable that is absent leaves the default.

  1. **Reading** — `Config.load lookup` reads the variables in a fixed order and stops at the first one
     whose value is invalid.  Seven variables are checked: two words, a flag and four numbers; the
     others are taken as they are, the two node lists split at commas.

  2. **Errors** — an error names the variable and the cause (`Config.Error.message`).
-/

import FieldBridge.Broker.Address
import FieldBridge.Format

namespace FieldBridge

/-- Where records go. -/
inductive BrokerKind where
  | mqtt
  | memory
  deriving DecidableEq, Repr, Inhabited

namespace BrokerKind

/-- The name of a broker kind. -/
def name : BrokerKind → String
  | .mqtt => "mqtt"
  | .memory => "memory"

/-- A word that stands for no broker kind, trimmed and in lower case. -/
structure ParseError where
  word : String
  deriving DecidableEq, Repr

/-- The wording of the error. -/
def ParseError.message (e : ParseError) : String :=
  "unknown broker type '" ++ e.word ++ "', expected 'mqtt' or 'memory'"

/-- The broker kind with a name, blanks around it and capitals allowed. -/
def parse (s : String) : Except ParseError BrokerKind :=
  let word := String.ofList (Text.keyword s.toList)
  match [BrokerKind.mqtt, BrokerKind.memory].find? fun k => k.name = word with
  | some k => .ok k
  | none => .error ⟨word⟩

end BrokerKind

/-- The configuration of a bridge.  Intervals are in milliseconds, the flush limit in seconds. -/
structure Config where
  serverUrl : String := "opc.tcp://localhost:4840"
  /-- The nodes monitored for value changes. -/
  nodes : List String := []
  pollingEnabled : Bool := false
  pollingInterval : UInt64 := 1000
  /-- The nodes read on every tick. -/
  pollingNodes : List String := []
  brokerKind : BrokerKind := .mqtt
  bootstrapServers : String := "tcp://localhost:1883"
  /-- Passed through untouched. -/
  schemaRegistry : Option String := none
  topic : String := "opcua-events"
  partitions : UInt32 := 1
  replication : UInt16 := 1
  format : Format := Format.default
  /-- Stamped on every message. -/
  aggregateId : String := "opcua-bridge"
  flushTimeout : UInt64 := 30
  deriving DecidableEq, Repr, Inhabited

namespace Config

/-- A configuration variable. -/
inductive Variable where
  | server
  | nodes
  | pollingEnabled
  | pollingCycle
  | pollingNodes
  | brokerType
  | bootstrapServers
  | schemaRegistry
  | topic
  | topicPartitions
  | topicReplication
  | payloadFormat
  | aggregateId
  | flushTimeout
  deriving DecidableEq, Repr

/-- The name of a variable. -/
def Variable.name : Variable → String
  | .server => "OPCUA_BRIDGE_SERVER"
  | .nodes => "OPCUA_BRIDGE_NODES"
  | .pollingEnabled => "OPCUA_BRIDGE_POLLING_ENABLED"
  | .pollingCycle => "OPCUA_BRIDGE_POLLING_CYCLE_MS"
  | .pollingNodes => "OPCUA_BRIDGE_POLLING_NODES"
  | .brokerType => "OPCUA_BRIDGE_BROKER_TYPE"
  | .bootstrapServers => "OPCUA_BRIDGE_BOOTSTRAP_SERVERS"
  | .schemaRegistry => "OPCUA_BRIDGE_SCHEMA_REGISTRY"
  | .topic => "OPCUA_BRIDGE_TOPIC"
  | .topicPartitions => "OPCUA_BRIDGE_TOPIC_PARTITIONS"
  | .topicReplication => "OPCUA_BRIDGE_TOPIC_REPLICATION"
  | .payloadFormat => "OPCUA_BRIDGE_PAYLOAD_FORMAT"
  | .aggregateId => "OPCUA_BRIDGE_AGGREGATE_ID"
  | .flushTimeout => "OPCUA_BRIDGE_FLUSH_TIMEOUT_SECS"

/-- Every variable, in the order in which they are read. -/
def Variable.all : List Variable :=
  [.server, .nodes, .pollingEnabled, .pollingCycle, .pollingNodes, .brokerType, .bootstrapServers,
    .schemaRegistry, .topic, .topicPartitions, .topicReplication, .payloadFormat, .aggregateId,
    .flushTimeout]

/-- Why a value is invalid. -/
inductive Cause where
  /-- The word, trimmed and in lower case, is no flag. -/
  | noFlag (word : String)
  | noNumber (error : Decimal.ParseError)
  | notPositive
  | noBroker (error : BrokerKind.ParseError)
  | noFormat (error : Format.ParseError)
  deriving DecidableEq, Repr

/-- The wording of the cause. -/
def Cause.message : Cause → String
  | .noFlag word => "expected a boolean, got '" ++ word ++ "'"
  | .noNumber e => e.message
  | .notPositive => "must be positive"
  | .noBroker e => e.message
  | .noFormat e => e.message

/-- A variable with an invalid value. -/
structure Error where
  variableName : Variable
  cause : Cause
  deriving DecidableEq, Repr

/-- The wording of the error. -/
def Error.message (e : Error) : String := "Invalid " ++ e.variableName.name ++ ": " ++ e.cause.message

/-- A flag: one of four words for yes and four for no. -/
def parseFlag (s : String) : Except Cause Bool :=
  let word := String.ofList (Text.keyword s.toList)
  if word ∈ ["true", "1", "yes", "on"] then .ok true
  else if word ∈ ["false", "0", "no", "off"] then .ok false
  else .error (.noFlag word)

/-- A number up to `limit`, blanks around it allowed. -/
def parseNumber (limit : Nat) (s : String) : Except Cause Nat :=
  match Decimal.parse limit (Text.trim s.toList) with
  | .ok n => .ok n
  | .error e => .error (.noNumber e)

/-- A number of milliseconds above 0. -/
def parseInterval (s : String) : Except Cause UInt64 :=
  match parseNumber Decimal.limit64 s with
  | .ok 0 => .error .notPositive
  | .ok n => .ok n.toUInt64
  | .error e => .error e

/-- A node list: the entries between the commas, trimmed, without the blank ones. -/
def parseNodes (s : String) : List String :=
  (((Text.pieces ',' s.toList).map Text.trim).filter (· ≠ [])).map String.ofList

/-- The configuration with one variable's value put in. -/
def set (c : Config) (v : Variable) (s : String) : Except Cause Config :=
  match v with
  | .server => .ok { c with serverUrl := s }
  | .nodes => .ok { c with nodes := parseNodes s }
  | .pollingEnabled => (parseFlag s).map fun b => { c with pollingEnabled := b }
  | .pollingCycle => (parseInterval s).map fun n => { c with pollingInterval := n }
  | .pollingNodes => .ok { c with pollingNodes := parseNodes s }
  | .brokerType => match BrokerKind.parse s with
    | .ok k => .ok { c with brokerKind := k }
    | .error e => .error (.noBroker e)
  | .bootstrapServers => .ok { c with bootstrapServers := s }
  | .schemaRegistry => .ok { c with schemaRegistry := some s }
  | .topic => .ok { c with topic := s }
  | .topicPartitions =>
    (parseNumber Decimal.limit32 s).map fun n => { c with partitions := n.toUInt32 }
  | .topicReplication =>
    (parseNumber Decimal.limit16 s).map fun n => { c with replication := n.toUInt16 }
  | .payloadFormat => match Format.parse s with
    | .ok f => .ok { c with format := f }
    | .error e => .error (.noFormat e)
  | .aggregateId => .ok { c with aggregateId := s }
  | .flushTimeout =>
    (parseNumber Decimal.limit64 s).map fun n => { c with flushTimeout := n.toUInt64 }

/-- Put in the variables of a list, one after another. -/
def loadFrom (lookup : String → Option String) : Config → List Variable → Except Error Config
  | c, [] => .ok c
  | c, v :: rest => match lookup v.name with
    | none => loadFrom lookup c rest
    | some s => match c.set v s with
      | .ok c => loadFrom lookup c rest
      | .error cause => .error ⟨v, cause⟩

/-- The configuration that the variables describe. -/
def load (lookup : String → Option String) : Except Error Config :=
  loadFrom lookup {} Variable.all

end Config

end FieldBridge
