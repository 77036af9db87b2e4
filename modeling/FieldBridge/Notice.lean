/-
  Notices: what the bridge logs.

  Each notice has a level, a fixed message and named fields.  They are values like any other, so what is
  logged can be reasoned about; how they are shown is left to whoever shows them.
-/

import FieldBridge.Number.Decimal

namespace FieldBridge

/-- How serious a notice is. -/
inductive Level where
  | info
  | warn
  | error
  deriving DecidableEq, Repr

/-- The name of a level. -/
def Level.name : Level → String
  | .info => "INFO"
  | .warn => "WARN"
  | .error => "ERROR"

/-- Something worth logging. -/
inductive Notice where
  /-- The logging listener received an event of a node. -/
  | received (node : String)
  /-- A broker accepted a message. -/
  | published (topic : String) (partition offset : Nat) (traceId : String)
  /-- A broker refused a message. -/
  | publishFailed (traceId error : String)
  | connectFailed (url error : String)
  | withoutConnection
  | subscriptionNotDeleted (id : Nat) (error : String)
  | closeFailed (error : String)
  | invalidNode (node error : String)
  | subscriptionFailed (error : String)
  | itemsFailed (error : String)
  | itemRejected (node status : String)
  | deletionRejected (node status : String)
  | deletionFailed (error : String)
  | valueNotGood (node status : String)
  | readFailed (node error : String)
  | unexpectedResults (node : String) (requested returned : Nat)
  | pollFailed (node error : String)
  | zeroInterval
  deriving DecidableEq, Repr

namespace Notice

def level : Notice → Level
  | .received _ => .info
  | .published .. => .info
  | .publishFailed .. => .error
  | .connectFailed .. => .error
  | .withoutConnection => .warn
  | .subscriptionNotDeleted .. => .warn
  | .closeFailed _ => .warn
  | .invalidNode .. => .warn
  | .subscriptionFailed _ => .error
  | .itemsFailed _ => .error
  | .itemRejected .. => .warn
  | .deletionRejected .. => .warn
  | .deletionFailed _ => .error
  | .valueNotGood .. => .warn
  | .readFailed .. => .warn
  | .unexpectedResults .. => .warn
  | .pollFailed .. => .warn
  | .zeroInterval => .warn

def message : Notice → String
  | .received _ => "Received OPC UA event"
  | .published .. => "Message published"
  | .publishFailed .. => "Failed to publish message"
  | .connectFailed .. => "Failed to connect to OPC UA server"
  | .withoutConnection => "Continuing without an OPC UA connection"
  | .subscriptionNotDeleted .. => "Failed to delete subscription"
  | .closeFailed _ => "Error while closing session"
  | .invalidNode .. => "Skipping invalid node id"
  | .subscriptionFailed _ => "Failed to create subscription"
  | .itemsFailed _ => "Failed to create monitored items"
  | .itemRejected .. => "Failed to create monitored item"
  | .deletionRejected .. => "Server reported failure deleting monitored item"
  | .deletionFailed _ => "Failed to delete monitored items"
  | .valueNotGood .. => "Value change without a good value"
  | .readFailed .. => "Attribute read failed"
  | .unexpectedResults .. => "Read returned an unexpected number of results"
  | .pollFailed .. => "Poll read failed"
  | .zeroInterval => "Polling interval is zero, polling not started"

/-- The named fields, numbers in decimal. -/
def fields : Notice → List (String × String)
  | .received node => [("node_id", node)]
  | .published topic partition offset traceId =>
    [("topic", topic), ("partition", Decimal.text partition), ("offset", Decimal.text offset),
      ("trace_id", traceId)]
  | .publishFailed traceId error => [("trace_id", traceId), ("error", error)]
  | .connectFailed url error => [("url", url), ("error", error)]
  | .withoutConnection => []
  | .subscriptionNotDeleted id error =>
    [("subscription_id", Decimal.text id), ("error", error)]
  | .closeFailed error => [("error", error)]
  | .invalidNode node error => [("node_id", node), ("error", error)]
  | .subscriptionFailed error => [("error", error)]
  | .itemsFailed error => [("error", error)]
  | .itemRejected node status => [("node_id", node), ("status", status)]
  | .deletionRejected node status => [("node_id", node), ("status", status)]
  | .deletionFailed error => [("error", error)]
  | .valueNotGood node status => [("node_id", node), ("status", status)]
  | .readFailed node error => [("node_id", node), ("error", error)]
  | .unexpectedResults node requested returned =>
    [("node_id", node), ("requested", Decimal.text requested), ("returned", Decimal.text returned)]
  | .pollFailed node error => [("node_id", node), ("error", error)]
  | .zeroInterval => []

end Notice

end FieldBridge
