/-
  Messages.

  A message is what the bridge publishes for one event: metadata (where it comes from, its own id, when
  it was made) and a payload of five texts.  Its key is the node id alone, so that all messages about a
  node go to one partition.

  `Message.ofEvent?` makes a message from an attribute set; an empty set gives none.  The id and the time
  of a new message are handed in as a `Stamp`.
-/

import FieldBridge.Event
import FieldBridge.Guid
import FieldBridge.Time.Instant

namespace FieldBridge

/-- Where, when and under which id a message was made. -/
structure Metadata where
  aggregateId : String
  traceId : String
  timestamp : Instant
  deriving DecidableEq, Inhabited

/-- What was observed. -/
structure Payload where
  nodeId : String
  browseName : String
  displayName : String
  description : String
  value : String
  deriving DecidableEq, Repr, Inhabited

/-- The published record of one event. -/
structure Message where
  metadata : Metadata
  payload : Payload
  deriving DecidableEq, Inhabited

/-- What partitions messages. -/
structure MessageKey where
  nodeId : String
  deriving DecidableEq, Repr, Inhabited

/-- Id and time of a message about to be made. -/
structure Stamp where
  traceId : String
  time : Instant
  deriving DecidableEq, Inhabited

/-- The `n`-th stamp of a run, at a time. -/
def Stamp.of (n : Nat) (time : Instant) : Stamp :=
  ⟨String.ofList (Guid.random n).text, time⟩

/-- The texts of an event; what is absent is empty. -/
def Payload.ofEvent (event : AttributeSet) : Payload where
  nodeId := event.getOrEmpty .nodeId
  browseName := event.getOrEmpty .browseName
  displayName := event.getOrEmpty .displayName
  description := event.getOrEmpty .description
  value := event.getOrEmpty .value

namespace Message

/-- The message for an event; `none` for an empty one. -/
def ofEvent? (aggregateId : String) (stamp : Stamp) (event : AttributeSet) : Option Message :=
  if event.isEmpty then none
  else some ⟨⟨aggregateId, stamp.traceId, stamp.time⟩, Payload.ofEvent event⟩

/-- The key of a message. -/
def key (m : Message) : MessageKey := ⟨m.payload.nodeId⟩

end Message

end FieldBridge
