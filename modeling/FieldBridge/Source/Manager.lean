/-
  The connection manager.

  At most one connection is current.  Connecting closes the current one first, then asks the server for
  its endpoints and opens a session on the first that does not protect its messages.  Closing a
  connection deletes every subscription listed on its session and closes the session; failures are
  reported and change nothing else.

  What is called is a `Transport`: the manager knows a server only through its five operations.  Every
  connection has a session of its own, and calls on a session name its connection.
-/

import FieldBridge.Source.Connection

namespace FieldBridge

/-- A connection of a manager. -/
structure ConnectionId where
  index : Nat
  deriving DecidableEq, Repr, Inhabited

/-- The operations on a server that the manager needs, over states `σ` of the server. -/
structure Transport (σ : Type) where
  discover : String → σ → Except TransportError (List Endpoint) × σ
  connect : Endpoint → σ → Except TransportError Unit × σ
  /-- The subscriptions on the session of a connection. -/
  subscriptions : ConnectionId → σ → List SubscriptionId
  deleteSubscription : ConnectionId → SubscriptionId → σ → Except TransportError Unit × σ
  close : ConnectionId → σ → Except TransportError Unit × σ

/-- The connections ever opened, and which of them is current. -/
structure Manager where
  /-- Oldest first. -/
  connections : List Connection := []
  current : Option ConnectionId := none
  deriving Inhabited

namespace Manager

/-- A connection by its id. -/
def get? (m : Manager) (id : ConnectionId) : Option Connection := m.connections[id.index]?

/-- Change a connection. -/
def modify (m : Manager) (id : ConnectionId) (f : Connection → Connection) : Manager :=
  { m with connections := m.connections.modify id.index f }

/-- The current connection. -/
def connection? (m : Manager) : Option (ConnectionId × Connection) := do
  let id ← m.current
  let c ← m.get? id
  some (id, c)

/-- There is a current connection. -/
def isConnected (m : Manager) : Bool := m.connection?.isSome

/-- Make a new connection the current one. -/
def install (m : Manager) (endpoint : Endpoint) : Manager where
  connections := m.connections ++ [{ endpoint }]
  current := some ⟨m.connections.length⟩

/-- A connection just installed is the current one. -/
theorem connection?_install (m : Manager) (endpoint : Endpoint) :
    (m.install endpoint).connection? = some (⟨m.connections.length⟩, { endpoint }) := by
  simp [connection?, install, get?]

variable {σ : Type}

/-- Try to delete each subscription. -/
def deleteEach (t : Transport σ) (session : ConnectionId) : σ → List SubscriptionId → List Notice × σ
  | s, [] => ([], s)
  | s, id :: rest =>
    let (answer, s) := t.deleteSubscription session id s
    let (notices, s) := deleteEach t session s rest
    (match answer with
      | .ok () => notices
      | .error e => .subscriptionNotDeleted id.number e.message :: notices, s)

/-- Close the current connection, if there is one. -/
def closeCurrent (t : Transport σ) (m : Manager) (s : σ) : List Notice × Manager × σ :=
  match m.connection? with
  | none => ([], m, s)
  | some (session, _) =>
    let (notices, s) := deleteEach t session s (t.subscriptions session s)
    let (answer, s) := t.close session s
    (match answer with
      | .ok () => notices
      | .error e => notices ++ [.closeFailed e.message], { m with current := none }, s)

/-- Closing leaves no connection current. -/
theorem isConnected_closeCurrent (t : Transport σ) (m : Manager) (s : σ) :
    (m.closeCurrent t s).2.1.isConnected = false := by
  unfold closeCurrent
  split
  · rename_i hnone
    rw [isConnected, hnone]
    rfl
  · rfl

/-- Find an endpoint that does not protect its messages and open a session on it. -/
def establish (t : Transport σ) (url : String) (s : σ) : Except TransportError Endpoint × σ :=
  match t.discover url s with
  | (.error e, s) => (.error e, s)
  | (.ok endpoints, s) => match endpoints.find? fun e => e.mode = .plain with
    | none => (.error (.noSuitableEndpoint url), s)
    | some endpoint => match t.connect endpoint s with
      | (.error e, s) => (.error e, s)
      | (.ok (), s) => (.ok endpoint, s)

/-- Connect to the server at a URL; says whether that succeeded. -/
def connect (t : Transport σ) (url : String) (m : Manager) (s : σ) :
    Bool × List Notice × Manager × σ :=
  let (notices, m, s) := m.closeCurrent t s
  match establish t url s with
  | (.ok endpoint, s) => (true, notices, m.install endpoint, s)
  | (.error e, s) => (false, notices ++ [.connectFailed url e.message], m, s)

/-- Disconnect. -/
def disconnect (t : Transport σ) (m : Manager) (s : σ) : List Notice × Manager × σ :=
  m.closeCurrent t s

end Manager

end FieldBridge
