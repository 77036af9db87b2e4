/-
  A session over the wire.

  1. **Server** — a table of variables (`Plant`), which offers three endpoints and keeps the subscriptions
     of its clients; items are numbered from 1 on each subscription.

  2. **Client** — discovers endpoints, connects only to one that it has discovered, and keeps a routing
     table and the list of its subscriptions.  An empty request is refused, and so is one on a
     subscription that the session does not have.
-/

import FieldBridge.Wire.Routes
import FieldBridge.Wire.Variant

namespace FieldBridge

/-! ## Server -/

/-- A variable of a server. -/
structure VariableNode where
  node : NodeId
  browse : String
  display : String
  description : Option String
  value : Variant
  status : Status
  deriving Inhabited

namespace VariableNode

/-- A text without a locale. -/
def plainText (s : String) : Variant := .localizedText none (some s)

/-- The answer for an attribute of the variable. -/
def read (v : VariableNode) : AttributeId → WireData
  | .nodeId => ⟨some (.nodeId v.node), none⟩
  | .browseName => ⟨some (.qualifiedName 0 (some v.browse)), none⟩
  | .displayName => ⟨some (plainText v.display), none⟩
  | .description => match v.description with
    | some s => ⟨some (plainText s), none⟩
    | none => ⟨none, some .attributeIdInvalid⟩
  | .value => ⟨some v.value, some v.status⟩

end VariableNode

/-- A subscription on a server. -/
structure PlantSubscription where
  id : SubscriptionId
  created : Nat := 0
  items : List ItemId := []
  deriving Inhabited

/-- A server with variables. -/
structure Plant where
  url : String
  nodes : List VariableNode := []
  subscriptions : List PlantSubscription := []
  /-- The subscriptions numbered so far. -/
  numbered : Nat := 0
  deriving Inhabited

/-- What the messages of an endpoint are protected with. -/
def SecurityMode.policy : SecurityMode → String
  | .plain => "http://opcfoundation.org/UA/SecurityPolicy#None"
  | _ => "http://opcfoundation.org/UA/SecurityPolicy#Basic256Sha256"

namespace Plant

/-- The endpoints offered. -/
def endpoints (p : Plant) : List Endpoint :=
  [⟨p.url, .plain⟩, ⟨p.url, .signed⟩, ⟨p.url, .encrypted⟩]

/-- A variable by its node. -/
def find? (p : Plant) (node : NodeId) : Option VariableNode := p.nodes.find? (·.node = node)

/-- The answer for one attribute. -/
def read (p : Plant) (item : ReadItem) : WireData :=
  match p.find? item.node with
  | some v => v.read item.attributeId
  | none => ⟨none, some .nodeIdUnknown⟩

/-- Create a subscription. -/
def subscribe (p : Plant) : SubscriptionId × Plant :=
  let id : SubscriptionId := ⟨p.numbered + 1⟩
  (id, { p with numbered := p.numbered + 1, subscriptions := p.subscriptions ++ [{ id }] })

/-- Delete a subscription. -/
def unsubscribe (p : Plant) (id : SubscriptionId) : Plant :=
  { p with subscriptions := p.subscriptions.filter (·.id ≠ id) }

/-- Create one item. -/
def createItem (p : Plant) (id : SubscriptionId) (node : NodeId) : ItemResult × Plant :=
  match p.subscriptions.find? (·.id = id), p.find? node with
  | some s, some _ =>
    let item : ItemId := ⟨s.created + 1⟩
    (⟨node, item, .good⟩, { p with subscriptions := p.subscriptions.map fun t =>
      if t.id = id then { t with created := t.created + 1, items := t.items ++ [item] } else t })
  | _, _ => (⟨node, ⟨0⟩, .nodeIdUnknown⟩, p)

/-- Create items one after another. -/
def createItems (id : SubscriptionId) : Plant → List NodeId → List ItemResult × Plant
  | p, [] => ([], p)
  | p, node :: rest =>
    let (result, p) := p.createItem id node
    let (results, p) := createItems id p rest
    (result :: results, p)

/-- Delete one item. -/
def deleteItem (p : Plant) (id : SubscriptionId) (item : ItemId) : Status × Plant :=
  if p.subscriptions.any fun s => s.id = id && s.items.contains item then
    (.good, { p with subscriptions := p.subscriptions.map fun s =>
      if s.id = id then { s with items := s.items.filter (· ≠ item) } else s })
  else (.itemIdInvalid, p)

/-- Delete items one after another. -/
def deleteItems (id : SubscriptionId) : Plant → List ItemId → List Status × Plant
  | p, [] => ([], p)
  | p, item :: rest =>
    let (status, p) := p.deleteItem id item
    let (statuses, p) := deleteItems id p rest
    (status :: statuses, p)

end Plant

/-! ## Client -/

/-- A session and what its client keeps about it. -/
structure WireSession where
  table : RoutingTable Observer := {}
  /-- Oldest first. -/
  subscriptions : List SubscriptionId := []
  closed : Bool := false
  /-- The items created, oldest first, also those deleted since. -/
  created : List (NodeId × ItemId) := []

/-- A client and the server that it talks to. -/
structure WireClient where
  plant : Plant
  discovered : List Endpoint := []
  session : Option WireSession := none

namespace WireClient

/-- The error of a request that asks for nothing. -/
def nothingToDo : TransportError := .service "BadNothingToDo"

/-- The error of a request on a subscription that the session does not have. -/
def invalidArgument : TransportError := .service "BadInvalidArgument"

/-- The text begins like a URL of the protocol. -/
def isProtocolUrl (url : String) : Bool := (Text.after? "opc.tcp://".toList url.toList).isSome

/-- Ask a server for its endpoints. -/
def discover (c : WireClient) (url : String) : Except TransportError (List Endpoint) × WireClient :=
  if isProtocolUrl url then
    let endpoints := c.plant.endpoints
    (.ok endpoints, { c with discovered := endpoints })
  else (.error (.discovery (url ++ ": BadTcpEndpointUrlInvalid")), c)

/-- The discovered endpoint of a mode. -/
def endpoint? (c : WireClient) (mode : SecurityMode) : Option Endpoint :=
  c.discovered.find? (·.mode = mode)

/-- Open a session on a discovered endpoint. -/
def connect (c : WireClient) (e : Endpoint) : Except TransportError Unit × WireClient :=
  if c.discovered.contains e then (.ok (), { c with session := some {} })
  else (.error (.connect (e.url ++ " was not discovered")), c)

/-- Read attributes in one batch. -/
def read (c : WireClient) (request : List ReadItem) : Except TransportError (List DataValue) :=
  if request.isEmpty then .error nothingToDo
  else .ok (request.map fun item => (c.plant.read item).toData)

/-- Create a subscription. -/
def subscribe (c : WireClient) (s : WireSession) : WireClient :=
  let (id, plant) := c.plant.subscribe
  { c with plant, session := some { s with subscriptions := s.subscriptions ++ [id] } }

/-- The newest subscription; without one, an id that no subscription has. -/
def newest (s : WireSession) : SubscriptionId := s.subscriptions.getLast?.getD ⟨0⟩

/-- Delete a subscription. -/
def unsubscribe (c : WireClient) (s : WireSession) (id : SubscriptionId) :
    Except TransportError Unit × WireClient :=
  if s.subscriptions.contains id then
    (.ok (), { c with
      plant := c.plant.unsubscribe id
      session := some { s with
        table := s.table.deleteSubscription id
        subscriptions := s.subscriptions.filter (· ≠ id) } })
  else (.error invalidArgument, c)

/-- Create items on a subscription. -/
def monitor (c : WireClient) (s : WireSession) (id : SubscriptionId) (requests : List MonitorRequest)
    (observer : Observer) : Except TransportError (List ItemResult) × WireClient :=
  let nodes := requests.map (·.node)
  let refuse (e : TransportError) : Except TransportError (List ItemResult) × WireClient :=
    (.error e,
      { c with session := some { s with table := s.table.create id nodes observer (.error e) } })
  if !s.subscriptions.contains id then refuse invalidArgument
  else if requests.isEmpty then refuse nothingToDo
  else
    let (results, plant) := c.plant.createItems id nodes
    let good := results.filter (·.status.isGood)
    (.ok results, { c with
      plant
      session := some { s with
        table := s.table.create id nodes observer (.ok results)
        created := s.created ++ good.map fun r => (r.node, r.item) } })

/-- Delete items of a subscription. -/
def unmonitor (c : WireClient) (s : WireSession) (id : SubscriptionId) (items : List ItemId) :
    Except TransportError (List Status) × WireClient :=
  if !s.subscriptions.contains id then (.error invalidArgument, c)
  else if items.isEmpty then (.error nothingToDo, c)
  else
    let (statuses, plant) := c.plant.deleteItems id items
    (.ok statuses,
      { c with plant, session := some { s with table := s.table.delete id items } })

/-- The item first created for a node; without one, an id that no item has. -/
def firstItem (s : WireSession) (node : NodeId) : ItemId := (s.created.lookup node).getD ⟨0⟩

/-- Close the session; a second time is an error. -/
def disconnect (c : WireClient) (s : WireSession) : Except TransportError Unit × WireClient :=
  if s.closed then (.error .closed, c)
  else (.ok (), { c with session := some { s with table := {}, subscriptions := [], closed := true } })

end WireClient

end FieldBridge
