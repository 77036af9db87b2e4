/-
  The client: the connection manager at work on a link.

  1. **Monitor calls** — a call claims its nodes, waits for the shared subscription of the connection,
     asks for one item per node and records the answers.  It is a state of its own (`MonitorCall`), which
     `Client.step` takes from one wait to the next and `Client.advance` as far as it gets, so that calls
     can overlap in any way.  On every way out the claim is released.

  2. **Unmonitor calls** — a call looks up its connection and then, holding the monitored nodes, deletes
     the items of those that it names.  Nothing else has to be waited for.

  Requests carry handles, which count up over the whole life of the client.
-/

import FieldBridge.Server.Link
import FieldBridge.Source.Manager

namespace FieldBridge

/-- The operations of a link that the manager uses.  The server has one session, which all connections
share. -/
def Link.transport : Transport Link where
  discover url l := (l.server.discover url, l)
  connect endpoint l :=
    let (answer, server) := l.server.connect endpoint
    (answer, { l with server })
  subscriptions _ l := l.server.subscriptions
  deleteSubscription _ id l := l.deleteSubscription id
  close _ l := l.close

/-- A link, the connections over it and the next handle. -/
structure Client where
  link : Link := {}
  manager : Manager := {}
  nextHandle : Nat := 1
  deriving Inhabited

/-- A monitor call in progress. -/
inductive MonitorCall where
  /-- It has not begun. -/
  | asking (texts : List String)
  /-- It waits for the subscription of its connection. -/
  | waiting (connection : ConnectionId) (claim : Claim)
  /-- It is creating that subscription, which takes until `due`. -/
  | opening (connection : ConnectionId) (claim : Claim) (due : Nat)
  /-- Its requests for items have been answered. -/
  | recording (connection : ConnectionId) (claim : Claim)
      (answer : Except TransportError (List ItemResult))
  deriving Inhabited

/-- When a call that is creating a subscription can go on. -/
def MonitorCall.due? : MonitorCall → Option Nat
  | .opening _ _ due => some due
  | _ => none

/-- The waits that are still before a call. -/
def MonitorCall.remaining : MonitorCall → Nat
  | .asking _ => 3
  | .waiting _ _ => 2
  | .opening _ _ _ => 1
  | .recording _ _ _ => 0

/-- An unmonitor call that has looked up its connection. -/
structure UnmonitorCall where
  connection : ConnectionId
  texts : List String
  deriving Inhabited

namespace Client

/-- What a step of a call gives: notices, the call unless it has ended, and the client. -/
abbrev Progress := List Notice × Option MonitorCall × Client

/-- Change a connection. -/
def modify (c : Client) (id : ConnectionId) (f : Connection → Connection) : Client :=
  { c with manager := c.manager.modify id f }

/-! ## Connecting -/

/-- Connect to the server at a URL; says whether that succeeded. -/
def connect (c : Client) (url : String) : Bool × List Notice × Client :=
  let (done, notices, manager, link) := c.manager.connect Link.transport url c.link
  (done, notices, { c with manager, link })

/-- Disconnect. -/
def disconnect (c : Client) : List Notice × Client :=
  let (notices, manager, link) := c.manager.disconnect Link.transport c.link
  (notices, { c with manager, link })

/-! ## Monitoring -/

/-- Take in the answer to the requests for a claim, and release the claim. -/
def conclude (c : Client) (id : ConnectionId) (claim : Claim) :
    Except TransportError (List ItemResult) → List Notice × Client
  | .error e => ([.itemsFailed e.message], c.modify id (·.release claim))
  | .ok results => match c.manager.get? id with
    | none => ([], c)
    | some connection =>
      let (notices, connection) := connection.record claim results
      (notices, c.modify id fun _ => connection.release claim)

/-- Ask for the items of a claim. -/
def createItems (c : Client) (id : ConnectionId) (claim : Claim) (subscription : SubscriptionId) :
    Progress :=
  let requests := Connection.requests claim c.nextHandle
  let (answer, link) := c.link.createItems subscription requests ⟨claim⟩
  ([], some (.recording id claim answer), { c with link, nextHandle := c.nextHandle + claim.length })

/-- The subscription that a call has waited for exists. -/
def opened (c : Client) (id : ConnectionId) (claim : Claim) : Progress :=
  let (subscription, link) := c.link.endSubscription
  let c := { c with link }.modify id fun n => { n with subscription := .ready subscription }
  c.createItems id claim subscription

/-- Get at the subscription: it is there, another call is creating it, or it has to be created. -/
def subscribe (c : Client) (now : Nat) (id : ConnectionId) (claim : Claim) : Progress :=
  match c.manager.get? id with
  | none => ([], none, c)
  | some connection => match connection.subscription with
    | .ready subscription => c.createItems id claim subscription
    | .opening => ([], some (.waiting id claim), c)
    | .absent => match c.link.beginSubscription with
      | (.error e, link) =>
        ([.subscriptionFailed e.message], none, { c with link }.modify id (·.release claim))
      | (.ok 0, link) => { c with link }.opened id claim
      | (.ok delay, link) =>
        ([], some (.opening id claim (now + delay)),
          { c with link }.modify id fun n => { n with subscription := .opening })

/-- A call begins: it claims the free nodes that its texts name. -/
def ask (c : Client) (texts : List String) : Progress :=
  match c.manager.connection? with
  | none => ([], none, c)
  | some (id, connection) =>
    let (notices, claim, connection) := connection.claim texts
    (notices, if claim.isEmpty then none else some (.waiting id claim), c.modify id fun _ => connection)

/-- Take a call to where it waits next. -/
def step (c : Client) (now : Nat) : MonitorCall → Progress
  | .asking texts => c.ask texts
  | .waiting id claim => c.subscribe now id claim
  | .opening id claim due =>
    if due ≤ now then c.opened id claim else ([], some (.opening id claim due), c)
  | .recording id claim answer =>
    let (notices, c) := c.conclude id claim answer
    (notices, none, c)

/-- Take a call as far as it gets. -/
def advance (c : Client) (now : Nat) (call : MonitorCall) : Progress :=
  match c.step now call with
  | (notices, none, c) => (notices, none, c)
  | (notices, some next, c) =>
    if next.remaining < call.remaining then
      let (more, next, c) := advance c now next
      (notices ++ more, next, c)
    else (notices, some next, c)
termination_by call.remaining

/-- Take calls as far as they get, one after another. -/
def advanceAll (now : Nat) : Client → List MonitorCall → List Notice × List MonitorCall × Client
  | c, [] => ([], [], c)
  | c, call :: rest =>
    let (notices, next, c) := c.advance now call
    let (more, calls, c) := advanceAll now c rest
    (notices ++ more, next.toList ++ calls, c)

/-- An unmonitor call begins; it ends at once if there is no subscription. -/
def beginUnmonitor (c : Client) (texts : List String) : Option UnmonitorCall :=
  match c.manager.connection? with
  | none => none
  | some (id, connection) => connection.subscription.id?.map fun _ => ⟨id, texts⟩

/-- An unmonitor call goes on to its end. -/
def finishUnmonitor (c : Client) (call : UnmonitorCall) : List Notice × Client :=
  match c.manager.get? call.connection with
  | none => ([], c)
  | some connection =>
    let targets := connection.targets call.texts
    if targets.isEmpty then ([], c)
    else match c.link.deleteItems (targets.map (·.2.item)) with
      | (.error e, link) => ([.deletionFailed e.message], { c with link })
      | (.ok statuses, link) =>
        let (notices, connection) := connection.erase targets statuses
        (notices, { c with link }.modify call.connection fun _ => connection)

/-- Stop monitoring the nodes that texts name. -/
def unmonitor (c : Client) (texts : List String) : List Notice × Client :=
  match c.beginUnmonitor texts with
  | none => ([], c)
  | some call => c.finishUnmonitor call

/-- The texts of the monitored nodes, in ascending order; none while disconnected. -/
def monitoredTexts (c : Client) : List String :=
  match c.manager.connection? with
  | none => []
  | some (_, connection) => connection.monitoredTexts

end Client

end FieldBridge
