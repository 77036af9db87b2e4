/-
  The routing table of a session.

  Changes arrive under the node of their item and are routed to the receiver of the call that created the
  item.  `routes` says who receives the changes of a node, `items` which node each item is for.

  Routes are put in before the server is asked, since changes may arrive before its answer; what the
  answer refuses is taken out again.  After every call the nodes with a route are the nodes of the items.
-/

import FieldBridge.Association
import FieldBridge.Server.Protocol

namespace FieldBridge

/-- An item, by its subscription and its number on it. -/
structure ItemKey where
  subscription : SubscriptionId
  item : ItemId
  deriving DecidableEq, Repr, Inhabited

/-- Receivers `κ` by node, and nodes by item. -/
structure RoutingTable (κ : Type) where
  routes : List (NodeId × κ) := []
  items : List (ItemKey × NodeId) := []

namespace RoutingTable

variable {κ : Type}

/-- Who receives the changes of a node. -/
def receiver? (t : RoutingTable κ) (node : NodeId) : Option κ := t.routes.lookup node

/-- Route a node to a receiver. -/
def route (receiver : κ) (t : RoutingTable κ) (node : NodeId) : RoutingTable κ :=
  { t with routes := (node, receiver) :: t.routes.filter fun p => p.1 ≠ node }

/-- Route a node nowhere. -/
def unroute (t : RoutingTable κ) (node : NodeId) : RoutingTable κ :=
  { t with routes := t.routes.filter fun p => p.1 ≠ node }

theorem receiver?_route (receiver : κ) (t : RoutingTable κ) (node other : NodeId) :
    (route receiver t node).receiver? other
      = if other = node then some receiver else t.receiver? other := by
  show List.lookup other ((node, receiver) :: t.routes.filter fun p => p.1 ≠ node) = _
  by_cases h : other = node
  · rw [h, List.lookup_cons, if_pos rfl, BEq.rfl]
  · have hne : (other == node) = false := beq_eq_false_iff_ne.2 h
    rw [if_neg h, List.lookup_cons, hne]
    exact lookup_without_of_ne t.routes h

theorem receiver?_unroute (t : RoutingTable κ) (node other : NodeId) :
    (t.unroute node).receiver? other = if other = node then none else t.receiver? other := by
  by_cases h : other = node
  · rw [if_pos h, h]
    exact lookup_without_self t.routes node
  · rw [if_neg h]
    exact lookup_without_of_ne t.routes h

/-- Enter an item. -/
def enter (t : RoutingTable κ) (key : ItemKey) (node : NodeId) : RoutingTable κ :=
  { t with items := (key, node) :: t.items.filter fun p => p.1 ≠ key }

/-- Take in the answer to the creation of one item. -/
def settle (subscription : SubscriptionId) (t : RoutingTable κ) (r : ItemResult) : RoutingTable κ :=
  if r.status.isGood then t.enter ⟨subscription, r.item⟩ r.node else t.unroute r.node

/-- A call that creates items for nodes has been answered, as a whole or item by item. -/
def create (t : RoutingTable κ) (subscription : SubscriptionId) (nodes : List NodeId) (receiver : κ) :
    Except TransportError (List ItemResult) → RoutingTable κ
  | .error _ => nodes.foldl unroute (nodes.foldl (route receiver) t)
  | .ok results => results.foldl (settle subscription) (nodes.foldl (route receiver) t)

/-- Take out an item and the route of its node. -/
def forget (t : RoutingTable κ) (key : ItemKey) : RoutingTable κ :=
  match t.items.lookup key with
  | none => t
  | some node => { t.unroute node with items := t.items.filter fun p => p.1 ≠ key }

/-- Items of a subscription have been deleted. -/
def delete (t : RoutingTable κ) (subscription : SubscriptionId) (items : List ItemId) :
    RoutingTable κ :=
  items.foldl (fun t item => t.forget ⟨subscription, item⟩) t

/-- A subscription has been deleted. -/
def deleteSubscription (t : RoutingTable κ) (subscription : SubscriptionId) : RoutingTable κ :=
  t.delete subscription
    ((t.items.filter fun p => p.1.subscription = subscription).map fun p => p.1.item)

end RoutingTable

end FieldBridge
