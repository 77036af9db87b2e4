/-
  One change of a value, from the server to the broker.

  1. **Reading** — the task of the change reads the naming attributes again and delivers its event
     (`run_change`).

  2. **Delivering** — an event that is not empty becomes one message in the outbox (`deliver_full`).

  3. **Publishing** — once everything has run, the broker has one record more, which carries what the
     server's table says (`Idle.settle_change`).
-/

import FieldBridge.Proofs.Bridge.Idle
import FieldBridge.Proofs.Message.RoundTrip
import FieldBridge.Proofs.Source.Announcement

namespace FieldBridge

/-- The text of an id of the random kind is short. -/
theorem Stamp.hasHead_traceId (n : Nat) (time : Instant) : HasHead (Stamp.of n time).traceId := by
  have hdigits : (Guid.random n).digits.length = 32 := Hex.length_fixedWith _ _ _
  have htext : (Guid.random n).text.length ≤ 36 := by
    simp only [Guid.text, Guid.hyphenate, List.length_append, List.length_cons, List.length_take,
      List.length_drop, hdigits]
    omega
  have hbytes := Utf8.length_encode_le (Guid.random n).text
  have hlimit : 144 < Cbor.headLimit := by decide
  rw [HasHead, Utf8.ofString, Stamp.of, String.toList_ofList]
  omega

/-- A record that a sink has made of a message with a payload. -/
def Sink.Carries (s : Sink) (aggregateId : String) (payload : Payload) (r : StoredRecord) : Prop :=
  ∃ m : Message, m.metadata.aggregateId = aggregateId ∧ HasHead m.metadata.traceId
    ∧ m.payload = payload ∧ r.key = m.key.encode s.format ∧ r.value = m.encode s.format
    ∧ r.partition = s.topic.partitionOf payload.nodeId

namespace Bridge

variable {b : Bridge}

/-- The message that the pipeline of a bridge makes of an event. -/
def messageOf (b : Bridge) (event : AttributeSet) : Message :=
  let stamp := Stamp.of b.pipeline.issued b.time
  ⟨⟨b.pipeline.aggregateId, stamp.traceId, stamp.time⟩, Payload.ofEvent event⟩

/-- **Delivering**: with the pipeline and the logger registered, an event that is not empty becomes one
message. -/
theorem deliver_full (hreached : b.registry.reached = [.pipeline, .logger]) {event : AttributeSet}
    (hfull : event.isEmpty = false) : b.deliver event = { b with
      pipeline := { b.pipeline with issued := b.pipeline.issued + 1 }
      outbox := b.outbox.send (b.messageOf event)
      notices := .received (event.getOrEmpty .nodeId) :: b.notices } := by
  have hpipe : b.pipeline.pipe b.time (.delivered event) = (some (b.messageOf event),
      { b.pipeline with issued := b.pipeline.issued + 1 }) := by
    simp [Pipeline.pipe, Pipeline.Item.event?, Pipeline.create, Message.ofEvent?, hfull, messageOf]
  simp only [deliver, hreached, List.foldl_cons, List.foldl_nil, call, hpipe]
  rfl

/-- What a task reports is logged and delivered. -/
theorem finish_some {t : ReadTask} {outcome : Except ReadError AttributeSet} {notices : List Notice}
    {event : AttributeSet} (h : t.event outcome = (notices, some event)) :
    b.finish t outcome = (b.log notices).deliver event := by
  simp only [finish, h]

/-- **Reading**: the task of a change reads the naming attributes over an open session, and its event is
delivered as the announcement of the server's table. -/
theorem run_change {text : String} {node : NodeId}
    (hconnected : b.client.manager.isConnected = true) (hparse : NodeId.parse text = .ok node)
    (hfaults : b.client.link.faults = {}) (hopen : b.client.link.server.closed = false)
    (value : Value) : ∃ link notices event, b.run (.ofChange ⟨text, .good value⟩)
        = ({ b with client := { b.client with link }, notices } : Bridge).deliver event
      ∧ Client.SameBooks b.client.link link ∧ link.server.closed = false
      ∧ event.isEmpty = false
      ∧ Payload.ofEvent event = b.client.link.server.announcement node text value := by
  let r : Reading := ⟨text, node, Reading.addressed Attribute.descriptive, false⟩
  obtain ⟨notices, event, hevent, hfull, hpayload⟩ :=
    event_ofChange hopen node text value b.time
  have hplan : Reading.plan b.client.manager.isConnected text Attribute.descriptive = .ok r := by
    simp only [Reading.plan, hconnected, hparse]
    rfl
  have hserver : (b.client.link.server.read r.request).2.subscriptions
        = b.client.link.server.subscriptions
      ∧ (b.client.link.server.read r.request).2.items = b.client.link.server.items
      ∧ (b.client.link.server.read r.request).2.numbered = b.client.link.server.numbered
      ∧ (b.client.link.server.read r.request).2.closed = false := by
    cases hreads : b.client.link.server.failReads with
    | true => simp [Server.read, hopen, hreads]
    | false => simp [Server.read, hopen, hreads]
  obtain ⟨hsubscriptions, hitems, hnumbered, hclosed⟩ := hserver
  let link : Link := { b.client.link with
    readings := r.request :: b.client.link.readings
    server := (b.client.link.server.read r.request).2 }
  refine ⟨link, notices.reverse ++ ((r.complete b.time
    (b.client.link.server.read r.request).1).1.reverse ++ b.notices), event, ?_,
    ⟨rfl, hsubscriptions, hitems, hnumbered⟩, hclosed, hfull, hpayload⟩
  have hask : b.ask r = ({}, { b with client := { b.client with link := { b.client.link with
      readings := r.request :: b.client.link.readings } } }) := by
    simp [ask, Link.beginRead, hfaults]
  have hattributes : (ReadTask.ofChange ⟨text, .good value⟩).attributes = Attribute.descriptive := rfl
  have hnode : (ReadTask.ofChange ⟨text, .good value⟩).node = text := rfl
  simp only [run, hattributes, hnode, hplan, hask, if_true]
  have hanswer : ({ b with client := { b.client with link := { b.client.link with
      readings := r.request :: b.client.link.readings } } } : Bridge).answer {} r
      = ((r.complete b.time (b.client.link.server.read r.request).1).2, { b with
        client := { b.client with link }
        notices := (r.complete b.time (b.client.link.server.read r.request).1).1.reverse
          ++ b.notices }) := rfl
  simp only [resume, hanswer]
  exact finish_some hevent

/-- A bridge that can publish: its listeners are registered and its topic is there. -/
structure Publishes (b : Bridge) : Prop where
  reached : b.registry.reached = [.pipeline, .logger]
  keeps : b.outbox.gate.broker.Keeps b.outbox.sink.topic
  partitions : b.outbox.sink.topic.partitions ≠ 0

/-- A change that is told to an idle bridge is all that runs. -/
theorem Idle.settle_spawn (h : b.Idle) (c : Change) :
    (b.spawn [c]).settle = (b.run (.ofChange c)).runJobs := by
  have hspawned : (b.spawn [c]).runSpawned = b.run (.ofChange c) := by
    simp only [spawn, Bridge.runSpawned, h.spawned, List.nil_append, List.map_cons, List.map_nil,
      List.foldl_cons, List.foldl_nil]
    rw [← h.spawned]
  rw [Bridge.settle, tick_of_none (b := b.spawn [c]) h.timer, wake_of_nil (b := b.spawn [c]) h.delayed,
    hspawned]

/-- An event delivered on an idle bridge becomes one record. -/
theorem Idle.runJobs_deliver (h : b.Idle) (hpublishes : b.Publishes) {event : AttributeSet}
    (hfull : event.isEmpty = false) : ∃ broker notices stored, (b.deliver event).runJobs = { b with
        pipeline := { b.pipeline with issued := b.pipeline.issued + 1 }
        outbox := { b.outbox with gate := { b.outbox.gate with broker } }
        notices }
      ∧ broker.failing = false ∧ broker.Keeps b.outbox.sink.topic
      ∧ b.outbox.sink.Carries b.pipeline.aggregateId (Payload.ofEvent event) stored
      ∧ ∀ p, broker.recordsOf b.outbox.sink.topic.name p
        = b.outbox.recordsOf p ++ if stored.partition = p then [stored] else [] := by
  obtain ⟨broker, notice, stored, hsettle, hfailing, hkeeps, hkey, hvalue, hpartition, hrecords⟩ :=
    h.outbox.send hpublishes.keeps hpublishes.partitions (b.messageOf event)
  have htrace : HasHead (b.messageOf event).metadata.traceId := Stamp.hasHead_traceId _ b.time
  refine ⟨broker, notice :: .received (event.getOrEmpty .nodeId) :: b.notices, stored, ?_, hfailing,
    hkeeps, ⟨b.messageOf event, rfl, htrace, rfl, hkey, hvalue, hpartition⟩, hrecords⟩
  rw [deliver_full hpublishes.reached hfull]
  simp only [Bridge.runJobs, hsettle, h.outbox.notices]
  rfl

/-- **Publishing**: a change that is told to an idle bridge becomes one record, which carries the
announcement of the server's table. -/
theorem Idle.settle_change (h : b.Idle) (hpublishes : b.Publishes) {text : String} {node : NodeId}
    (hconnected : b.client.manager.isConnected = true) (hparse : NodeId.parse text = .ok node)
    (hfaults : b.client.link.faults = {}) (hopen : b.client.link.server.closed = false)
    (value : Value) : ∃ link broker notices stored, (b.spawn [⟨text, .good value⟩]).settle = { b with
        client := { b.client with link }
        pipeline := { b.pipeline with issued := b.pipeline.issued + 1 }
        outbox := { b.outbox with gate := { b.outbox.gate with broker } }
        notices }
      ∧ Client.SameBooks b.client.link link ∧ link.server.closed = false
      ∧ broker.failing = false ∧ broker.Keeps b.outbox.sink.topic
      ∧ b.outbox.sink.Carries b.pipeline.aggregateId
        (b.client.link.server.announcement node text value) stored
      ∧ ∀ p, broker.recordsOf b.outbox.sink.topic.name p
        = b.outbox.recordsOf p ++ if stored.partition = p then [stored] else [] := by
  obtain ⟨link, notices, event, hrun, hsame, hclosed, hfull, hpayload⟩ :=
    run_change hconnected hparse hfaults hopen value
  let b₁ : Bridge := { b with client := { b.client with link }, notices }
  have hidle : b₁.Idle := h.keep { b.client with link } b.now notices
  have hready : b₁.Publishes := ⟨hpublishes.reached, hpublishes.keeps, hpublishes.partitions⟩
  obtain ⟨broker, more, stored, hjobs, hfailing, hkeeps, hcarries, hrecords⟩ :=
    hidle.runJobs_deliver hready hfull
  rw [hpayload] at hcarries
  refine ⟨link, broker, more, stored, ?_, hsame, hclosed, hfailing, hkeeps, hcarries, hrecords⟩
  rw [h.settle_spawn, hrun]
  exact hjobs

end Bridge

end FieldBridge
