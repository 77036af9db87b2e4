/-
  Publishing over MQTT.

  Each record is published to its own topic and stays outstanding until the server acknowledges it.  The
  client refuses only a publish whose topic holds a wildcard.  Offsets are counted per topic and
  partition, and only for accepted records.

  A send has two steps, and acknowledgements may arrive in between: `begin` counts the record as
  outstanding, `settle` takes the client's answer.  An acknowledgement that arrives early finds the
  record already counted.

  A flush waits until no record is outstanding, unless nobody receives acknowledgements any more.
-/

import FieldBridge.Broker.Record
import FieldBridge.Sink.InFlight

namespace FieldBridge

/-- The client's side of an MQTT connection. -/
structure MqttBroker where
  unacknowledged : InFlight := {}
  /-- The next offset of each topic and partition in use. -/
  offsets : List ((String × UInt32) × Nat) := []
  /-- Nobody receives acknowledgements any more. -/
  stopped : Bool := false
  deriving Repr

namespace MqttBroker

/-- The client's reason for refusing a publish. -/
def refusal : BrokerError := .send "Failed to send mqtt requests to eventloop"

/-- The client takes a publish to a topic without wildcards. -/
def accepts (r : Record) : Bool := !(r.level.contains '+' || r.level.contains '#')

/-- A send begins. -/
def beginSend (b : MqttBroker) : MqttBroker := { b with unacknowledged := b.unacknowledged.start }

/-- The next offset of a partition. -/
def nextOffset (b : MqttBroker) (topic : String) (partition : UInt32) : Nat :=
  (b.offsets.lookup (topic, partition)).getD 0

/-- The client refused the publish. -/
def refused (b : MqttBroker) : MqttBroker := { b with unacknowledged := b.unacknowledged.finish }

/-- The client accepted the publish: the record gets the next offset of its partition. -/
def accepted (b : MqttBroker) (r : Record) : Receipt × MqttBroker :=
  let key := (r.topic, r.partition)
  let offset := b.nextOffset r.topic r.partition
  (r.receipt offset,
    { b with offsets := (key, offset + 1) :: b.offsets.filter fun p => p.1 ≠ key })

/-- The client's answer to a publish. -/
def settle (b : MqttBroker) (r : Record) : Except BrokerError Receipt × MqttBroker :=
  if accepts r then
    let (receipt, b) := b.accepted r
    (.ok receipt, b)
  else (.error refusal, b.refused)

/-- An acknowledgement arrives. -/
def acknowledge (b : MqttBroker) : MqttBroker :=
  { b with unacknowledged := b.unacknowledged.finish }

/-- Send a record without an acknowledgement in between. -/
def send (b : MqttBroker) (r : Record) : Except BrokerError Receipt × MqttBroker :=
  b.beginSend.settle r

/-- Every accepted record has been acknowledged, so a flush is complete. -/
def isFlushed (b : MqttBroker) : Bool := b.unacknowledged.isIdle

/-- Why a flush that begins fails at once: records are outstanding for good.  `none` if it waits. -/
def flushFailure? (b : MqttBroker) : Option BrokerError :=
  if b.stopped && !b.isFlushed then
    some (.flush ("event loop stopped with " ++ Decimal.text b.unacknowledged.count
      ++ " unacknowledged records"))
  else none

end MqttBroker

end FieldBridge
