/-
  Reading attributes of a node.

  Attributes of one node are read in one batch.  Of the answers, those that are good and hold a value are
  formatted into an event; the answers belong to the requested attributes by position, and answers or
  attributes too many are left out.

  `Reading.plan` decides what to ask for, `Reading.event` what the answers say, and `Reading.attempt` does
  both with a session in between.
-/

import FieldBridge.Event
import FieldBridge.Notice
import FieldBridge.Server.Protocol

namespace FieldBridge

/-- Why attributes could not be read. -/
inductive ReadError where
  | notConnected
  | invalidNode (text : String) (cause : NodeId.ParseError)
  | transport (cause : TransportError)
  deriving DecidableEq, Repr

/-- The wording of the error. -/
def ReadError.message : ReadError → String
  | .notConnected => "not connected"
  | .invalidNode text cause => "invalid node id: " ++ text ++ ": " ++ cause.message
  | .transport cause => "transport error: " ++ cause.message

/-- A reading to be done. -/
structure Reading where
  /-- The node as the caller wrote it. -/
  text : String
  node : NodeId
  /-- The attributes to ask for, in order. -/
  requested : List (Attribute × AttributeId)
  /-- The event gets a time stamp. -/
  stamped : Bool
  deriving Inhabited

namespace Reading

/-- The attributes that are addressed on the wire, with their ids. -/
def addressed (attributes : List Attribute) : List (Attribute × AttributeId) :=
  attributes.filterMap fun a => a.id?.map (a, ·)

/-- What to read; it takes a connection and a text that is a node id. -/
def plan (connected : Bool) (text : String) (attributes : List Attribute) :
    Except ReadError Reading :=
  if !connected then .error .notConnected
  else match NodeId.parse text with
    | .error e => .error (.invalidNode text e)
    | .ok node => .ok ⟨text, node, addressed attributes, attributes.contains .timestamp⟩

/-- The batch to ask for. -/
def request (r : Reading) : List ReadItem := r.requested.map fun p => ⟨r.node, p.2⟩

/-- Put one answer into an event, if it is good and holds a value. -/
def take (event : AttributeSet) (a : Attribute) (data : DataValue) : AttributeSet :=
  match data.good? with
  | some v => event.insert a (a.format v)
  | none => event

/-- Put answers into an event, position by position. -/
def fill (event : AttributeSet) : List (Attribute × AttributeId) → List DataValue → AttributeSet
  | (a, _) :: requested, data :: values => fill (take event a data) requested values
  | _, _ => event

/-- What the answers say, at a time; the node is always named, in the caller's words. -/
def event (r : Reading) (time : Instant) (values : List DataValue) : AttributeSet :=
  let event := fill .empty r.requested values
  let event := if r.stamped then event.insert .timestamp (String.ofList time.millisText) else event
  event.insert .nodeId r.text

/-- A count of answers that does not fit is reported. -/
def check (r : Reading) (values : List DataValue) : List Notice :=
  if values.length = r.requested.length then []
  else [.unexpectedResults r.text r.requested.length values.length]

/-- The outcome of a reading that was answered. -/
def complete (r : Reading) (time : Instant) (answer : Except TransportError (List DataValue)) :
    List Notice × Except ReadError AttributeSet :=
  match answer with
  | .error e => ([], .error (.transport e))
  | .ok values => (r.check values, .ok (r.event time values))

end Reading

/-- A session over states `σ`: how a batch is answered, and what time it is. -/
structure Session (σ : Type) where
  read : List ReadItem → σ → Except TransportError (List DataValue) × σ
  time : σ → Instant

/-- Read attributes of a node; nothing is asked for if there is nothing to ask for. -/
def Reading.attempt {σ : Type} (session : Session σ) (connected : Bool) (text : String)
    (attributes : List Attribute) (s : σ) : List Notice × Except ReadError AttributeSet × σ :=
  match plan connected text attributes with
  | .error e => ([], .error e, s)
  | .ok r =>
    let (answer, s) := if r.requested.isEmpty then (.ok [], s) else session.read r.request s
    let (notices, outcome) := r.complete (session.time s) answer
    (notices, outcome, s)

end FieldBridge
