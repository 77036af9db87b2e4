/-
  Reading tasks.

  Two things make the bridge read a node by itself: a tick of the poll timer, and a value that has
  changed, after which the naming attributes are read again.

  `ReadTask.event` says what a task reports once its reading has an outcome: a poll nothing if the reading
  failed, a change at least the node, and the new value if it is good.
-/

import FieldBridge.Source.Reader

namespace FieldBridge

/-- What a task reads for. -/
inductive Purpose where
  | poll
  /-- The node's value has changed. -/
  | change (data : DataValue)
  deriving Inhabited

/-- A reading to be done for the bridge itself. -/
structure ReadTask where
  /-- The node as the caller wrote it. -/
  node : String
  purpose : Purpose
  deriving Inhabited

/-- What is read of a node, quietly: a failed reading gives an empty event and is reported, unless there
is just no connection. -/
def Reading.quiet (text : String) : Except ReadError AttributeSet → List Notice × AttributeSet
  | .ok event => ([], event)
  | .error .notConnected => ([], .empty)
  | .error e => ([.readFailed text e.message], .empty)

/-- Read attributes of a node quietly. -/
def Reading.quietly {σ : Type} (session : Session σ) (connected : Bool) (text : String)
    (attributes : List Attribute) (s : σ) : List Notice × AttributeSet × σ :=
  let (notices, outcome, s) := attempt session connected text attributes s
  let (more, event) := quiet text outcome
  (notices ++ more, event, s)

namespace ReadTask

/-- The task for a change. -/
def ofChange (c : Change) : ReadTask := ⟨c.node, .change c.data⟩

/-- The attributes that a task reads. -/
def attributes (t : ReadTask) : List Attribute :=
  match t.purpose with
  | .poll => Attribute.polled
  | .change _ => Attribute.descriptive

/-- The event of a poll. -/
def pollEvent (node : String) : Except ReadError AttributeSet → List Notice × Option AttributeSet
  | .ok event => ([], if event.isEmpty then none else some event)
  | .error .notConnected => ([], none)
  | .error e => ([.pollFailed node e.message], none)

/-- The event of a change: the node, what was read of it, and the value. -/
def changeEvent (node : String) (read : AttributeSet) (data : DataValue) :
    List Notice × AttributeSet :=
  let event := (AttributeSet.empty.insert .nodeId node).merge read
  match data.good? with
  | some v => ([], event.insert .value (Attribute.value.format v))
  | none => ([.valueNotGood node data.status.text], event)

/-- What a task reports, given the outcome of its reading. -/
def event (t : ReadTask) (outcome : Except ReadError AttributeSet) :
    List Notice × Option AttributeSet :=
  match t.purpose with
  | .poll => pollEvent t.node outcome
  | .change data =>
    let (notices, read) := Reading.quiet t.node outcome
    let (more, event) := changeEvent t.node read data
    (notices ++ more, some event)

end ReadTask

end FieldBridge
