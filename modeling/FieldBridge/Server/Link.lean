/-
  The link to a server.

  Every call of the bridge goes over the link, which passes it on to the server.  The link can be made to
  fail calls of a kind, to delay readings, and to alter answers; it keeps a record of the calls.

  A failed call does not reach the server, except that closing fails only after the session is closed.
-/

import FieldBridge.Server.Table

namespace FieldBridge

/-- What the link does to a reading.  It is settled when the reading is asked for. -/
structure ReadFaults where
  /-- How long the reading is held back. -/
  delay : Nat := 0
  /-- The number of values to which the answer is cut or filled up. -/
  length : Option Nat := none
  deriving Inhabited

/-- What goes wrong on a link. -/
structure Faults where
  createSubscription : Bool := false
  createItems : Bool := false
  deleteItems : Bool := false
  deleteSubscription : Bool := false
  close : Bool := false
  read : ReadFaults := {}
  /-- Put in place of the status of each created item. -/
  createStatus : Option Status := none
  /-- Put in place of the node of each created item. -/
  createNode : Option NodeId := none
  /-- Put in place of the status of each deleted item. -/
  deleteStatus : Option Status := none
  deriving Inhabited

/-- A server and the link to it. -/
structure Link where
  server : Server := {}
  faults : Faults := {}
  /-- The readings asked for, newest first. -/
  readings : List (List ReadItem) := []
  /-- The monitor requests made, newest first. -/
  requests : List MonitorRequest := []
  /-- The observers handed over with them, newest first. -/
  observers : List (NodeId × Observer) := []
  deriving Inhabited

namespace Link

/-- What a failed call reports. -/
def fault (call : String) : TransportError := .service (call ++ " fault")

/-- Ask for a reading; gives what the link does to it. -/
def beginRead (l : Link) (request : List ReadItem) : ReadFaults × Link :=
  (l.faults.read, { l with readings := request :: l.readings })

/-- Cut a list, or fill it up, to a length. -/
def resize {α : Type} (length : Nat) (filler : α) (l : List α) : List α :=
  l.take length ++ List.replicate (length - l.length) filler

/-- Take the reading, once the time has passed. -/
def endRead (l : Link) (faults : ReadFaults) (request : List ReadItem) :
    Except TransportError (List DataValue) × Link :=
  let (answer, server) := l.server.read request
  let answer := match faults.length with
    | some n => answer.map (resize n (.good (.int 99)))
    | none => answer
  (answer, { l with server })

/-- Begin to create a subscription; gives the time that it takes. -/
def beginSubscription (l : Link) : Except TransportError Nat × Link :=
  if l.faults.createSubscription then (.error (fault "create_subscription"), l)
  else
    let (answer, server) := l.server.beginSubscription
    (answer, { l with server })

/-- Create the subscription, once the time has passed. -/
def endSubscription (l : Link) : SubscriptionId × Link :=
  let (id, server) := l.server.endSubscription
  (id, { l with server })

/-- The answer to a monitor request as the link reports it. -/
def alterCreated (f : Faults) (r : ItemResult) : ItemResult :=
  { r with
    status := f.createStatus.getD r.status
    node := f.createNode.getD r.node }

/-- Create items on a subscription. -/
def createItems (l : Link) (subscription : SubscriptionId) (requests : List MonitorRequest)
    (observer : Observer) : Except TransportError (List ItemResult) × Link :=
  let l := { l with
    requests := requests.reverse ++ l.requests
    observers := (requests.map fun r => (r.node, observer)).reverse ++ l.observers }
  if l.faults.createItems then (.error (fault "create_items"), l)
  else
    let (answer, server) := l.server.createItems subscription requests observer
    (answer.map (List.map (alterCreated l.faults)), { l with server })

/-- Delete items. -/
def deleteItems (l : Link) (ids : List ItemId) : Except TransportError (List Status) × Link :=
  if l.faults.deleteItems then (.error (fault "delete_items"), l)
  else
    let (answer, server) := l.server.deleteItems ids
    (answer.map (List.map fun s => l.faults.deleteStatus.getD s), { l with server })

/-- Delete a subscription. -/
def deleteSubscription (l : Link) (id : SubscriptionId) : Except TransportError Unit × Link :=
  if l.faults.deleteSubscription then (.error (fault "delete_subscription"), l)
  else
    let (answer, server) := l.server.deleteSubscription id
    (answer, { l with server })

/-- Close the session. -/
def close (l : Link) : Except TransportError Unit × Link :=
  let l := { l with server := l.server.close }
  (if l.faults.close then .error (fault "disconnect") else .ok (), l)

/-- Tell the observer last handed over for a node `via` about a change; `none` if there is none. -/
def notify (l : Link) (via node : NodeId) (data : DataValue) : Option Change :=
  (l.observers.lookup via).map fun o => o.change node data

end Link

end FieldBridge
