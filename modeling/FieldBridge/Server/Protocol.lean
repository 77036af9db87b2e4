/-
  What passes between the bridge and a server.

  A server offers endpoints.  On one of them a session is opened; over the session attributes are read in
  batches, and values are monitored: a subscription holds items, and each item reports the changes of one
  attribute of one node.

  Times are in milliseconds.
-/

import FieldBridge.Node.Id
import FieldBridge.Node.Status
import FieldBridge.Value

namespace FieldBridge

/-- How the messages of an endpoint are protected. -/
inductive SecurityMode where
  | plain
  | signed
  | encrypted
  deriving DecidableEq, Repr, Inhabited

/-- An offer of a server. -/
structure Endpoint where
  url : String
  mode : SecurityMode
  deriving DecidableEq, Repr, Inhabited

/-- Why a server did not do as asked. -/
inductive TransportError where
  | discovery (reason : String)
  /-- Every endpoint of the server protects its messages. -/
  | noSuitableEndpoint (url : String)
  | connect (reason : String)
  | service (reason : String)
  /-- The session is closed. -/
  | closed
  deriving DecidableEq, Repr

/-- The wording of the error. -/
def TransportError.message : TransportError → String
  | .discovery reason => "discovery error: " ++ reason
  | .noSuitableEndpoint url => "no unsecured endpoint offered by " ++ url
  | .connect reason => "connect error: " ++ reason
  | .service reason => "service error: " ++ reason
  | .closed => "session closed"

/-- The answer for one attribute: a status and, as a rule if that is good, a value. -/
structure DataValue where
  value : Option Value
  status : Status
  deriving Inhabited

namespace DataValue

/-- A good value. -/
def good (v : Value) : DataValue := ⟨some v, .good⟩

/-- A status without a value. -/
def bad (s : Status) : DataValue := ⟨none, s⟩

/-- The value, if it is there and good. -/
def good? (d : DataValue) : Option Value := if d.status.isGood then d.value else none

end DataValue

/-- One attribute of one node to be read. -/
structure ReadItem where
  node : NodeId
  attributeId : AttributeId
  deriving DecidableEq, Inhabited

/-- The number that a server gives to a subscription. -/
structure SubscriptionId where
  number : Nat
  deriving DecidableEq, Repr, Inhabited

/-- The number that a server gives to an item. -/
structure ItemId where
  number : Nat
  deriving DecidableEq, Repr, Inhabited

/-- What an item does with changes. -/
inductive MonitoringMode where
  | reporting
  | sampling
  | disabled
  deriving DecidableEq, Repr, Inhabited

/-- An item to be created. -/
structure MonitorRequest where
  node : NodeId
  attributeId : AttributeId
  mode : MonitoringMode
  /-- Chosen by the client. -/
  handle : Nat
  samplingInterval : Nat
  queueSize : Nat
  /-- A full queue drops its oldest entry. -/
  discardOldest : Bool
  deriving DecidableEq, Inhabited

/-- A request to report the changes of a node's value. -/
def MonitorRequest.forValue (node : NodeId) (handle : Nat) : MonitorRequest where
  node
  attributeId := .value
  mode := .reporting
  handle
  samplingInterval := 100
  queueSize := 1
  discardOldest := true

/-- The answer to one monitor request. -/
structure ItemResult where
  node : NodeId
  item : ItemId
  status : Status
  deriving DecidableEq, Inhabited

/-- Whom a server tells about a change: it knows, for the nodes of one monitor call, how the caller wrote
them. -/
structure Observer where
  spellings : List (NodeId × String)
  deriving Inhabited

/-- The text under which changes of a node are reported. -/
def Observer.spelling (o : Observer) (node : NodeId) : String :=
  (o.spellings.lookup node).getD node.text

/-- A value that has changed, under the text of its node. -/
structure Change where
  node : String
  data : DataValue
  deriving Inhabited

/-- The change that an observer is told about. -/
def Observer.change (o : Observer) (node : NodeId) (data : DataValue) : Change :=
  ⟨o.spelling node, data⟩

end FieldBridge
