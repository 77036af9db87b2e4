/-
  The publish sink.

  Sending a message never waits: the message becomes a record, the record a spawned job, and the job is
  in flight until the broker has answered.  A refused record is logged and dropped.

  A flush waits until no job is in flight and only then asks the broker to flush.
-/

import FieldBridge.Broker.Memory
import FieldBridge.Message.Codec
import FieldBridge.Notice
import FieldBridge.Sink.InFlight

namespace FieldBridge

/-- A spawned send. -/
structure Job where
  record : Record
  traceId : String
  deriving DecidableEq, Repr, Inhabited

/-- Why a sink operation failed. -/
inductive SinkError where
  | topic (name : String) (cause : BrokerError)
  | flush (cause : BrokerError)
  deriving DecidableEq, Repr

/-- The wording of the error. -/
def SinkError.message : SinkError → String
  | .topic name cause => "topic error: " ++ name ++ ": " ++ cause.message
  | .flush cause => "flush error: " ++ cause.message

/-- The settings of a sink and its jobs in flight. -/
structure Sink where
  topic : Topic
  format : Format
  inFlight : InFlight := {}
  deriving Repr

namespace Sink

/-- The record of a message: keyed and partitioned by its node id. -/
def record (s : Sink) (m : Message) : Record where
  topic := s.topic.name
  partition := s.topic.partitionOf m.key.nodeId
  key := m.key.encode s.format
  value := m.encode s.format

/-- Publish a message: one more job is in flight. -/
def send (s : Sink) (m : Message) : Job × Sink :=
  (⟨s.record m, m.metadata.traceId⟩, { s with inFlight := s.inFlight.start })

/-- What is logged about a broker's answer. -/
def outcome (j : Job) : Except BrokerError Receipt → Notice
  | .ok r => .published r.topic r.partition.toNat r.offset j.traceId
  | .error e => .publishFailed j.traceId e.message

/-- A broker has answered a job, which is no longer in flight. -/
def complete (s : Sink) (j : Job) (answer : Except BrokerError Receipt) : Notice × Sink :=
  (outcome j answer, { s with inFlight := s.inFlight.finish })

/-- No job is in flight, so a waiting flush may go to the broker. -/
def mayFlush (s : Sink) : Bool := s.inFlight.isIdle

/-- What a flush gives when the broker has answered it. -/
def flushed : Except BrokerError Unit → Except SinkError Unit
  | .ok () => .ok ()
  | .error e => .error (.flush e)

end Sink

end FieldBridge
