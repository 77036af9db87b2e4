/-
  An outbox whose gate is open.

  As long as the gate is open and the broker accepts sends, nothing stays under way in an outbox: asking
  for the topic succeeds (`Accepts.ensure`), and a message sent is the last record of its partition once
  the jobs have run (`Accepts.send`).
-/

import FieldBridge.Proofs.Broker.Memory
import FieldBridge.Sink.Outbox

namespace FieldBridge

/-- Nothing is under way in an outbox, whose gate is open and whose broker accepts sends. -/
structure Outbox.Accepts (o : Outbox) : Prop where
  ready : o.ready = []
  notices : o.notices = []
  opened : o.gate.closed = false
  ensures : o.gate.failEnsure = false
  accepts : o.gate.broker.failing = false

namespace Outbox

variable {o : Outbox}

/-- The records of a partition of the sink's topic. -/
def recordsOf (o : Outbox) (p : UInt32) : List StoredRecord :=
  o.gate.broker.recordsOf o.sink.topic.name p

/-- Where nothing is under way nothing happens. -/
theorem Accepts.settle (h : o.Accepts) : o.settle = o := by
  obtain ⟨sink, gate, ready, notices⟩ := o
  obtain rfl : ready = [] := h.ready
  rfl

/-- **The topic** can be created. -/
theorem Accepts.ensure (h : o.Accepts) : ∃ broker, o.ensure = (.ok (), { o with
      gate := { o.gate with broker } })
    ∧ ({ o with gate := { o.gate with broker } } : Outbox).Accepts
    ∧ (o.gate.broker.log? o.sink.topic.name = none ∨ o.gate.broker.Keeps o.sink.topic →
      broker.Keeps o.sink.topic)
    ∧ ∀ p, broker.recordsOf o.sink.topic.name p = o.recordsOf p := by
  refine ⟨o.gate.broker.ensure o.sink.topic, ?_, ?_, MemoryBroker.keeps_ensure,
    MemoryBroker.recordsOf_ensure _ _⟩
  · simp [Outbox.ensure, GatedBroker.ensure, h.ensures]
  · refine { h with accepts := ?_ }
    show (o.gate.broker.ensure o.sink.topic).failing = false
    unfold MemoryBroker.ensure
    split
    · exact h.accepts
    · exact h.accepts

/-- **A message** is the last record of its partition once the jobs have run. -/
theorem Accepts.send (h : o.Accepts) (hkeeps : o.gate.broker.Keeps o.sink.topic)
    (hpartitions : o.sink.topic.partitions ≠ 0) (m : Message) :
    ∃ broker notice stored, (o.send m).settle = { o with
        gate := { o.gate with broker }
        notices := [notice] }
      ∧ broker.failing = false ∧ broker.Keeps o.sink.topic
      ∧ stored.key = m.key.encode o.sink.format ∧ stored.value = m.encode o.sink.format
      ∧ stored.partition = o.sink.topic.partitionOf m.key.nodeId
      ∧ ∀ p, broker.recordsOf o.sink.topic.name p
        = o.recordsOf p ++ if stored.partition = p then [stored] else [] := by
  obtain ⟨stored, hpartition, hkey, hvalue, hfailing, hkept, hrecords⟩ := hkeeps.send
    (r := o.sink.record m) h.accepts rfl (Topic.partitionOf_lt hpartitions m.key.nodeId)
  let notice := Sink.outcome (o.sink.send m).1 (o.gate.broker.send (o.sink.record m)).1
  refine ⟨_, notice, stored, ?_, hfailing, hkept, hkey, hvalue, hpartition, ?_⟩
  · obtain ⟨sink, gate, ready, notices⟩ := o
    obtain rfl : ready = [] := h.ready
    obtain rfl : notices = [] := h.notices
    have hopen : gate.closed = false := h.opened
    simp [Outbox.send, Outbox.settle, Outbox.run, Outbox.deliver, GatedBroker.arrive, hopen,
      GatedBroker.send, Sink.send, Sink.complete, InFlight.start, InFlight.finish, notice]
  · rw [hpartition]
    exact hrecords

end Outbox

end FieldBridge
