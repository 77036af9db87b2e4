/-
  The attribute catalog.

  The bridge knows six attributes of a node.  Five of them are read from the server, under the
  attribute ids of the OPC UA address space; `timestamp` is synthetic: it is made when a read is
  answered and never requested.
-/

namespace FieldBridge

/-- An attribute of a node, in catalog order. -/
inductive Attribute where
  | nodeId
  | browseName
  | displayName
  | description
  | value
  | timestamp
  deriving DecidableEq, Repr, Inhabited

/-- An attribute that is addressed on the wire. -/
inductive AttributeId where
  | nodeId
  | browseName
  | displayName
  | description
  | value
  deriving DecidableEq, Repr, Inhabited

namespace AttributeId

/-- The number sent on the wire. -/
def number : AttributeId → Nat
  | .nodeId => 1
  | .browseName => 3
  | .displayName => 4
  | .description => 5
  | .value => 13

/-- Every attribute id. -/
def all : List AttributeId := [.nodeId, .browseName, .displayName, .description, .value]

/-- The stable name. -/
def key : AttributeId → String
  | .nodeId => "NodeId"
  | .browseName => "BrowseName"
  | .displayName => "DisplayName"
  | .description => "Description"
  | .value => "Value"

/-- The attribute id with a stable name. -/
def ofKey? (key : String) : Option AttributeId := all.find? fun a => a.key = key

end AttributeId

namespace Attribute

/-- The whole catalog. -/
def all : List Attribute := [.nodeId, .browseName, .displayName, .description, .value, .timestamp]

/-- The attributes read when a node is polled. -/
def polled : List Attribute := [.browseName, .value, .displayName, .description]

/-- The attributes read again when a monitored value has changed. -/
def descriptive : List Attribute := [.browseName, .description, .displayName]

/-- The id on the wire; `none` for the synthetic attribute. -/
def id? : Attribute → Option AttributeId
  | .nodeId => some .nodeId
  | .browseName => some .browseName
  | .displayName => some .displayName
  | .description => some .description
  | .value => some .value
  | .timestamp => none

/-- The stable name in events and logs. -/
def key : Attribute → String
  | .nodeId => "NodeId"
  | .browseName => "BrowseName"
  | .displayName => "DisplayName"
  | .description => "Description"
  | .value => "Value"
  | .timestamp => "Timestamp"

/-- The attribute with a stable name. -/
def ofKey? (key : String) : Option Attribute := all.find? fun a => a.key = key

/-- The catalog is complete. -/
theorem mem_all (a : Attribute) : a ∈ all := by cases a <;> decide

end Attribute

end FieldBridge
