/-
  A server that is a table.

  The values of its attributes, its subscriptions and its items are lists; a reading is a look-up.  It
  counts the calls made to it, can be told to refuse things, and serves one session, which is open or
  closed and can be opened again.

  Creating a subscription takes two steps, since it may be delayed: the call is counted first, and the
  subscription exists once the delay has passed, whatever has happened to the session by then.
-/

import FieldBridge.Association
import FieldBridge.Server.Protocol

namespace FieldBridge

/-- A live item. -/
structure ServerItem where
  id : ItemId
  subscription : SubscriptionId
  node : NodeId
  observer : Observer
  deriving Inhabited

/-- A server and its one session. -/
structure Server where
  endpoints : List Endpoint := [⟨"opc.tcp://mock:4840", .plain⟩]
  /-- The latest answer for each attribute, newest first. -/
  values : List (ReadItem × DataValue) := []
  /-- Nodes that may not be monitored. -/
  rejected : List NodeId := []
  subscriptions : List SubscriptionId := []
  /-- The live items, oldest first. -/
  items : List ServerItem := []
  /-- The latest monitor requests. -/
  requests : List MonitorRequest := []
  /-- How long creating a subscription takes. -/
  subscriptionDelay : Nat := 0
  /-- The subscriptions and items numbered so far. -/
  numbered : Nat := 0
  failDiscovery : Bool := false
  failConnect : Bool := false
  failReads : Bool := false
  closed : Bool := false
  readCalls : Nat := 0
  subscriptionCalls : Nat := 0
  closeCalls : Nat := 0
  /-- How often a session was opened. -/
  opened : Nat := 0
  deriving Inhabited

namespace Server

/-! ## Setting it up -/

/-- Set the answer for an attribute. -/
def answer (s : Server) (item : ReadItem) (data : DataValue) : Server :=
  { s with values := (item, data) :: s.values.filter fun p => p.1 ≠ item }

/-- Set the naming attributes and the value of a node. -/
def describe (s : Server) (node : NodeId) (browse display description : String) (value : Value) :
    Server :=
  let named (text : String) := DataValue.good (.localizedText (some "en") text)
  (((s.answer ⟨node, .browseName⟩ (.good (.qualifiedName node.space browse))).answer
    ⟨node, .displayName⟩ (named display)).answer
    ⟨node, .description⟩ (named description)).answer
    ⟨node, .value⟩ (.good value)

/-- Refuse to monitor a node. -/
def reject (s : Server) (node : NodeId) : Server :=
  { s with rejected := node :: s.rejected.filter (· ≠ node) }

/-- Monitor a node again. -/
def allow (s : Server) (node : NodeId) : Server :=
  { s with rejected := s.rejected.filter (· ≠ node) }

/-! ## Opening and closing -/

/-- The endpoints offered. -/
def discover (s : Server) (url : String) : Except TransportError (List Endpoint) :=
  if s.failDiscovery then .error (.discovery (url ++ ": unreachable")) else .ok s.endpoints

/-- Open the session. -/
def connect (s : Server) (endpoint : Endpoint) : Except TransportError Unit × Server :=
  if s.failConnect then (.error (.connect (endpoint.url ++ ": refused")), s)
  else (.ok (), { s with opened := s.opened + 1, closed := false })

/-- Close the session. -/
def close (s : Server) : Server := { s with closeCalls := s.closeCalls + 1, closed := true }

/-! ## Reading -/

/-- The answer for one attribute; an unknown one is reported as an unknown node. -/
def valueOf (s : Server) (item : ReadItem) : DataValue :=
  (s.values.lookup item).getD (.bad .nodeIdUnknown)

/-- Read attributes in one batch. -/
def read (s : Server) (request : List ReadItem) : Except TransportError (List DataValue) × Server :=
  if s.closed then (.error .closed, s)
  else
    let s := { s with readCalls := s.readCalls + 1 }
    if s.failReads then (.error (.service "read failed"), s)
    else (.ok (request.map s.valueOf), s)

/-! ## Monitoring -/

/-- Begin to create a subscription; gives the time that it takes. -/
def beginSubscription (s : Server) : Except TransportError Nat × Server :=
  if s.closed then (.error .closed, s)
  else (.ok s.subscriptionDelay, { s with subscriptionCalls := s.subscriptionCalls + 1 })

/-- Create the subscription, once the time has passed. -/
def endSubscription (s : Server) : SubscriptionId × Server :=
  let id : SubscriptionId := ⟨s.numbered + 1⟩
  (id, { s with numbered := s.numbered + 1, subscriptions := s.subscriptions ++ [id] })

/-- Create one item; a rejected node uses up a number. -/
def createItem (subscription : SubscriptionId) (observer : Observer) (s : Server)
    (r : MonitorRequest) : ItemResult × Server :=
  let id : ItemId := ⟨s.numbered + 1⟩
  let s := { s with numbered := s.numbered + 1 }
  if r.node ∈ s.rejected then (⟨r.node, id, .nodeIdUnknown⟩, s)
  else (⟨r.node, id, .good⟩, { s with items := s.items ++ [⟨id, subscription, r.node, observer⟩] })

/-- Create items one after another. -/
def createEach (subscription : SubscriptionId) (observer : Observer) :
    Server → List MonitorRequest → List ItemResult × Server
  | s, [] => ([], s)
  | s, r :: rest =>
    let (result, s) := s.createItem subscription observer r
    let (results, s) := s.createEach subscription observer rest
    (result :: results, s)

/-- Create items on a subscription. -/
def createItems (s : Server) (subscription : SubscriptionId) (requests : List MonitorRequest)
    (observer : Observer) : Except TransportError (List ItemResult) × Server :=
  if s.closed then (.error .closed, s)
  else
    let (results, s) := { s with requests }.createEach subscription observer requests
    (.ok results, s)

/-- Delete one item. -/
def deleteItem (s : Server) (id : ItemId) : Status × Server :=
  if s.items.any (·.id = id) then (.good, { s with items := s.items.filter (·.id ≠ id) })
  else (.itemIdInvalid, s)

/-- Delete items one after another. -/
def deleteEach : Server → List ItemId → List Status × Server
  | s, [] => ([], s)
  | s, id :: rest =>
    let (status, s) := s.deleteItem id
    let (statuses, s) := s.deleteEach rest
    (status :: statuses, s)

/-- Delete items. -/
def deleteItems (s : Server) (ids : List ItemId) : Except TransportError (List Status) × Server :=
  if s.closed then (.error .closed, s)
  else
    let (statuses, s) := s.deleteEach ids
    (.ok statuses, s)

/-- Delete a subscription and its items. -/
def deleteSubscription (s : Server) (id : SubscriptionId) : Except TransportError Unit × Server :=
  if s.closed then (.error .closed, s)
  else (.ok (), { s with
    subscriptions := s.subscriptions.filter (· ≠ id)
    items := s.items.filter (·.subscription ≠ id) })

/-- A node's value has changed: what the observers of its items are told. -/
def changes (s : Server) (node : NodeId) (value : Value) : List Change :=
  (s.items.filter (·.node = node)).map fun i => i.observer.change node (.good value)

end Server

end FieldBridge
