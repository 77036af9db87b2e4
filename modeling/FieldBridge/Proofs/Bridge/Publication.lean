/-
  From the server to the broker.

  1. **Events** — what can happen to a bridge over a server whose link has no faults and a broker that
     accepts sends: it is started, any number of times, the server's table and settings change, time
     passes, and values change.  After each event everything runs that can run.

  2. **Specification** — `Bridge.told`: a change of the value of a monitored node has to be published,
     under the first configured text that names the node; a change of another node has not.

  3. **Invariant** (`Bridge.Inv`) — between two events nothing is under way, all that is on the server is
     known by its first text, and a bridge that has been started has its listeners registered once and
     its topic created.

  4. **Publication** (`published_run`) — in every run each partition gets exactly the records of the
     changes told about its nodes, in the order of the changes, and each record reads back as what was
     told.
-/

import FieldBridge.Proofs.Bridge.Change

namespace FieldBridge

/-- The topic of a configuration. -/
def Config.sinkTopic (config : Config) : Topic :=
  Topic.create config.topic config.partitions config.replication

/-- In CBOR the texts that a record is made of have to have heads. -/
def Config.Headed (config : Config) (payload : Payload) : Prop :=
  config.format = .cbor → ∀ text ∈ [config.aggregateId, payload.nodeId, payload.browseName,
    payload.displayName, payload.description, payload.value], HasHead text

/-- A record is that of a payload: it is in the partition of the node, and its key and its value read back
as the node and as a message with the payload. -/
structure Config.Publishes (config : Config) (payload : Payload) (r : StoredRecord) : Prop where
  partition : r.partition = config.sinkTopic.partitionOf payload.nodeId
  key : config.Headed payload → MessageKey.decode? r.key config.format = some ⟨payload.nodeId⟩
  value : config.Headed payload → ∃ m, Message.decode? r.value config.format = some m
    ∧ m.metadata.aggregateId = config.aggregateId ∧ m.payload = payload

/-- What a sink has made of a payload reads back as the payload. -/
theorem Sink.Carries.publishes {s : Sink} {config : Config} {payload : Payload} {r : StoredRecord}
    (h : s.Carries config.aggregateId payload r) (htopic : s.topic = config.sinkTopic)
    (hformat : s.format = config.format) : config.Publishes payload r := by
  obtain ⟨m, hown, htrace, rfl, hkey, hvalue, hpartition⟩ := h
  rw [hformat] at hkey hvalue
  rw [htopic] at hpartition
  refine ⟨hpartition, fun hheads => ?_, fun hheads => ⟨m.carried, ?_, hown, rfl⟩⟩
  · rw [hkey]
    exact MessageKey.decode?_encode fun hcbor => hheads hcbor _ (by simp [Message.key])
  · rw [hvalue]
    refine Message.decode?_encode fun hcbor text htext => ?_
    rw [Message.texts, hown] at htext
    rcases List.mem_cons.1 htext with haggregate | htext
    · exact hheads hcbor text (haggregate ▸ List.mem_cons_self)
    · rcases List.mem_cons.1 htext with rfl | hrest
      · exact htrace
      · exact hheads hcbor text (List.mem_cons_of_mem _ hrest)

/-- A record and its payload belong to the same partition. -/
theorem Config.Publishes.single {config : Config} {payload : Payload} {r : StoredRecord}
    (h : config.Publishes payload r) (p : UInt32) : List.Forall₂ config.Publishes
      ([payload].filter fun payload => config.sinkTopic.partitionOf payload.nodeId = p)
      (if r.partition = p then [r] else []) := by
  rw [h.partition]
  by_cases hp : config.sinkTopic.partitionOf payload.nodeId = p
  · have hkept : [payload].filter (fun payload =>
        config.sinkTopic.partitionOf payload.nodeId = p) = [payload] :=
      List.filter_cons_of_pos (decide_eq_true hp)
    rw [if_pos hp, hkept]
    exact List.Forall₂.cons h List.Forall₂.nil
  · have hnone : [payload].filter (fun payload =>
        config.sinkTopic.partitionOf payload.nodeId = p) = [] :=
      List.filter_cons_of_neg fun hmem => hp (of_decide_eq_true hmem)
    rw [if_neg hp, hnone]
    exact List.Forall₂.nil

namespace Bridge

/-! ## Events -/

/-- What can happen. -/
inductive Event where
  | start
  /-- The table has a new answer for an attribute. -/
  | answer (item : ReadItem) (data : DataValue)
  /-- The table has new answers for the naming attributes and the value of a node. -/
  | describe (node : NodeId) (browse display description : String) (value : Value)
  | failReads (fail : Bool)
  | reject (node : NodeId)
  | allow (node : NodeId)
  | delaySubscriptions (ms : Nat)
  | failConnect (fail : Bool)
  | failDiscovery (fail : Bool)
  | sleep (ms : Nat)
  /-- The value of a node changes. -/
  | fire (node : NodeId) (value : Value)

/-- Change the server. -/
def set (b : Bridge) (f : Server → Server) : Bridge :=
  { b with client := { b.client with link := { b.client.link with server := f b.client.link.server } } }

/-- What an event does at once. -/
def react (b : Bridge) : Event → Bridge
  | .start => b.start.2
  | .answer item data => b.set (·.answer item data)
  | .describe node browse display description value =>
    b.set (·.describe node browse display description value)
  | .failReads fail => b.set fun s => { s with failReads := fail }
  | .reject node => b.set (·.reject node)
  | .allow node => b.set (·.allow node)
  | .delaySubscriptions ms => b.set fun s => { s with subscriptionDelay := ms }
  | .failConnect fail => b.set fun s => { s with failConnect := fail }
  | .failDiscovery fail => b.set fun s => { s with failDiscovery := fail }
  | .sleep ms => b.sleep ms
  | .fire node value => b.spawn (b.client.link.server.changes node value)

/-- One event, after which everything runs. -/
def perform (b : Bridge) (e : Event) : Bridge := (b.react e).settle

/-- Events, one after another. -/
def performAll (b : Bridge) (events : List Event) : Bridge := events.foldl perform b

/-- A bridge that has not been started, over a server that offers endpoints. -/
def unstarted (config : Config) (endpoints : List Endpoint) : Bridge :=
  { create config {} with client := { link := { server := { endpoints } } } }

/-! ## Specification -/

/-- What an event tells: the announcement of the server's table, if a monitored node changes. -/
def tells (config : Config) (b : Bridge) : Event → Option Payload
  | .fire node value =>
    if b.client.isMonitored node then
      (firstText? config.nodes node).map fun text =>
        b.client.link.server.announcement node text value
    else none
  | _ => none

/-- What events tell, one after another. -/
def told (config : Config) : Bridge → List Event → List Payload
  | _, [] => []
  | b, e :: rest => (b.tells config e).toList ++ told config (b.perform e) rest

/-- The records of a partition of the topic. -/
def recordsOf (b : Bridge) (p : UInt32) : List StoredRecord := b.outbox.recordsOf p

/-! ## Invariant -/

/-- A bridge that has not been started. -/
structure Fresh (b : Bridge) : Prop where
  registered : b.registered = []
  registry : b.registry = {}
  topics : b.outbox.gate.broker.topics = []
  current : b.client.manager.current = none

/-- A bridge that has been started. -/
structure Started (b : Bridge) : Prop where
  registered : b.registered ≠ []
  reached : b.registry.reached = [.pipeline, .logger]
  keeps : b.outbox.gate.broker.Keeps b.outbox.sink.topic

/-- **The invariant** between two events. -/
structure Inv (config : Config) (b : Bridge) : Prop where
  idle : b.Idle
  configured : b.config = config
  topic : b.outbox.sink.topic = config.sinkTopic
  format : b.outbox.sink.format = config.format
  aggregateId : b.pipeline.aggregateId = config.aggregateId
  client : Client.Alone config.nodes b.client none
  stage : b.Fresh ∨ b.Started

variable {b : Bridge} {config : Config}

theorem inv_unstarted (config : Config) (endpoints : List Endpoint) :
    (unstarted config endpoints).Inv config where
  idle := ⟨rfl, rfl, rfl, ⟨rfl, rfl, rfl, rfl, rfl⟩⟩
  configured := rfl
  topic := rfl
  format := rfl
  aggregateId := rfl
  client := by
    refine ⟨⟨[], Traffic.inv_start endpoints⟩, fun i hi => absurd hi List.not_mem_nil, ?_⟩
    exact fun own heq => absurd heq (by simp)
  stage := Or.inl ⟨rfl, rfl, rfl, rfl⟩

/-! ## Starting -/

/-- Registering leaves the pipeline and the logger registered, each once. -/
theorem register_eq (h : b.registered = [] ∧ b.registry = {}
      ∨ b.registered ≠ [] ∧ b.registry.reached = [.pipeline, .logger]) :
    ∃ registry registered, b.register = { b with registry, registered } ∧ registered ≠ []
      ∧ registry.reached = [.pipeline, .logger] := by
  rcases h with ⟨hregistered, hregistry⟩ | ⟨hregistered, hreached⟩
  · let registry : Registry Listener := (((({} : Registry Listener).add .pipeline).2).add .logger).2
    refine ⟨registry, [⟨1⟩, ⟨2⟩], ?_, by simp, rfl⟩
    simp [register, listen, hregistered, hregistry, Registry.add, registry]
  · refine ⟨b.registry, b.registered, ?_, hregistered, hreached⟩
    have hfull : b.registered.isEmpty = false := by simpa using hregistered
    simp [register, hfull]

/-- **Starting** a bridge whose outbox accepts sends creates the topic, connects, registers the listeners
once and monitors the configured nodes; nothing is under way afterwards, and no record has changed. -/
theorem Inv.start_eq (h : Inv config b) (hpolling : config.pollingEnabled = false) :
    ∃ broker client registry registered now notices, b.start.2 = { b with
        outbox := { b.outbox with gate := { b.outbox.gate with broker } }
        client, registry, registered, now, notices }
      ∧ ({ b.outbox with gate := { b.outbox.gate with broker } } : Outbox).Accepts
      ∧ broker.Keeps b.outbox.sink.topic
      ∧ (∀ p, broker.recordsOf b.outbox.sink.topic.name p = b.recordsOf p)
      ∧ Client.Alone config.nodes client none
      ∧ registered ≠ [] ∧ registry.reached = [.pipeline, .logger] := by
  obtain ⟨broker, hensure, haccepts, hkeeps, hrecords⟩ := h.idle.outbox.ensure
  -- nobody else creates topics, so there is no other one of this name
  have hkept : broker.Keeps b.outbox.sink.topic := by
    refine hkeeps ?_
    rcases h.stage with hfresh | hstarted
    · refine Or.inl ?_
      rw [MemoryBroker.log?, hfresh.topics]
      rfl
    · exact Or.inr hstarted.keeps
  let outbox : Outbox := { b.outbox with gate := { b.outbox.gate with broker } }
  let notices := (if (b.client.connect b.config.serverUrl).1 then []
    else [Notice.withoutConnection]).reverse
    ++ ((b.client.connect b.config.serverUrl).2.1.reverse ++ b.notices)
  let b₁ : Bridge := { b with outbox, client := (b.client.connect b.config.serverUrl).2.2, notices }
  have hstage : b₁.registered = [] ∧ b₁.registry = {}
      ∨ b₁.registered ≠ [] ∧ b₁.registry.reached = [.pipeline, .logger] := by
    rcases h.stage with hfresh | hstarted
    · exact Or.inl ⟨hfresh.registered, hfresh.registry⟩
    · exact Or.inr ⟨hstarted.registered, hstarted.reached⟩
  obtain ⟨registry, registered, hregister, hfull, hreached⟩ := register_eq hstage
  let b₂ : Bridge := { b₁ with registry, registered }
  have hidle : b₂.Idle := ⟨h.idle.timer, h.idle.spawned, h.idle.delayed, haccepts⟩
  obtain ⟨client, now, more, hmonitor, hclient⟩ :=
    hidle.monitor (h.client.connect b.config.serverUrl)
  refine ⟨broker, client, registry, registered, now, more, ?_, haccepts, hkept, hrecords, hclient,
    hfull, hreached⟩
  have hbegin : b.beginStart = (.ok (), b₁.register) := by
    simp only [beginStart, hensure]
    rfl
  have hnodes : b₂.config.nodes = config.nodes := congrArg Config.nodes h.configured
  have hpolls : ({ b₂ with client, now, notices := more } : Bridge).config.pollingEnabled = false := by
    rw [← hpolling, ← h.configured]
  simp only [start, hbegin, hregister]
  rw [hnodes, hmonitor, finishStart, hpolls]
  rfl

/-! ## Steps -/

/-- The records that a bridge has more than another one are those of some payloads, in their order. -/
def Adds (config : Config) (b b' : Bridge) (payloads : List Payload) : Prop :=
  ∀ p, ∃ records, b'.recordsOf p = b.recordsOf p ++ records ∧ List.Forall₂ config.Publishes
    (payloads.filter fun payload => config.sinkTopic.partitionOf payload.nodeId = p) records

/-- An event that leaves nothing under way and no new record. -/
theorem Inv.quiet {b' : Bridge} (h : b'.Inv config) (hrecords : ∀ p, b'.recordsOf p = b.recordsOf p) :
    b'.settle.Inv config ∧ Adds config b b'.settle [] := by
  rw [h.idle.settle]
  refine ⟨h, fun p => ⟨[], ?_, List.Forall₂.nil⟩⟩
  rw [hrecords, List.append_nil]

/-- What the link, the clock and the log say does not matter to the stage of a bridge. -/
theorem stage_keep (h : b.Fresh ∨ b.Started) (link : Link) (now : Nat) :
    ({ b with client := { b.client with link }, now } : Bridge).Fresh
      ∨ ({ b with client := { b.client with link }, now } : Bridge).Started := by
  rcases h with hfresh | hstarted
  · exact Or.inl ⟨hfresh.registered, hfresh.registry, hfresh.topics, hfresh.current⟩
  · exact Or.inr ⟨hstarted.registered, hstarted.reached, hstarted.keeps⟩

/-- What else changes on the server does not matter. -/
theorem Inv.set (h : b.Inv config) {f : Server → Server} (hsame : Client.SameBooks b.client.link
    { b.client.link with server := f b.client.link.server })
    (hclosed : (f b.client.link.server).closed = b.client.link.server.closed) :
    (b.set f).settle.Inv config ∧ Adds config b (b.set f).settle [] := by
  have hset : (b.set f).Inv config := { h with
    idle := h.idle.keep _ _ _
    client := h.client.set hsame hclosed
    stage := stage_keep h.stage _ b.now }
  exact hset.quiet fun _ => rfl

/-- A change of a monitored node is told to a bridge that can publish it. -/
theorem Inv.publishes (h : b.Inv config) {node : NodeId} (hnode : b.client.isMonitored node = true) :
    b.Publishes := by
  have hpartitions : b.outbox.sink.topic.partitions ≠ 0 := by
    rw [h.topic]
    exact Topic.partitions_create_ne _ _ _
  rcases h.stage with hfresh | hstarted
  · have hnone : b.client.manager.connection? = none := by
      simp [Manager.connection?, hfresh.current]
    simp [Client.isMonitored, hnone] at hnode
  · exact ⟨hstarted.reached, hstarted.keeps, hpartitions⟩

/-- **A change** of a monitored node adds one record, a change of another node none. -/
theorem Inv.fire (h : b.Inv config) (node : NodeId) (value : Value) :
    (b.perform (.fire node value)).Inv config
      ∧ Adds config b (b.perform (.fire node value)) (b.tells config (.fire node value)).toList := by
  cases hnode : b.client.isMonitored node with
  | false =>
    have hspawn : b.spawn (b.client.link.server.changes node value) = b := by
      rw [h.client.changes_other hnode]
      simp [spawn]
    have htells : b.tells config (.fire node value) = none := by
      simp [tells, hnode]
    rw [htells, perform, react, hspawn]
    exact h.quiet fun _ => rfl
  | true =>
    obtain ⟨text, hfirst, hchanges⟩ := h.client.changes_monitored hnode value
    obtain ⟨hconnected, hopen⟩ := h.client.isOpen hnode
    obtain ⟨created, hinv⟩ := h.client.books
    have hpublishes := h.publishes hnode
    obtain ⟨link, broker, notices, stored, hsettle, hsame, hclosed, hfailing, hkeeps, hcarries,
      hrecords⟩ := h.idle.settle_change hpublishes hconnected (parse?_of_firstText? hfirst)
        hinv.faultless hopen value
    have htells : b.tells config (.fire node value)
        = some (b.client.link.server.announcement node text value) := by
      simp [tells, hnode, hfirst]
    rw [h.aggregateId] at hcarries
    have hpublished := hcarries.publishes h.topic h.format
    rw [htells, perform, react, hchanges, hsettle]
    refine ⟨?_, fun p => ⟨_, hrecords p, ?_⟩⟩
    · -- the reading has left the books as they are
      refine { h with idle := ?_, client := h.client.set hsame (hclosed.trans hopen.symm), stage := ?_ }
      · exact ⟨h.idle.timer, h.idle.spawned, h.idle.delayed, h.idle.outbox.ready, h.idle.outbox.notices,
          h.idle.outbox.opened, h.idle.outbox.ensures, hfailing⟩
      · rcases h.stage with hfresh | hstarted
        · exact absurd hpublishes.reached (by simp [hfresh.registry, Registry.reached])
        · exact Or.inr ⟨hstarted.registered, hstarted.reached, hkeeps⟩
    · exact hpublished.single p

/-- **Step**: every event keeps the invariant and adds exactly the records of what it tells. -/
theorem Inv.step (h : b.Inv config) (hpolling : config.pollingEnabled = false) (e : Event) :
    (b.perform e).Inv config ∧ Adds config b (b.perform e) (b.tells config e).toList := by
  cases e with
  | start =>
    obtain ⟨broker, client, registry, registered, now, notices, hstart, haccepts, hkeeps, hrecords,
      hclient, hfull, hreached⟩ := h.start_eq hpolling
    have hstarted : b.start.2.Inv config := by
      rw [hstart]
      exact { h with
        idle := ⟨h.idle.timer, h.idle.spawned, h.idle.delayed, haccepts⟩
        client := hclient
        stage := Or.inr ⟨hfull, hreached, hkeeps⟩ }
    exact hstarted.quiet fun p => by
      rw [hstart]
      exact hrecords p
  | sleep ms =>
    have hsleep : b.sleep ms = { b with now := max b.now (b.now + ms) } := h.idle.sleepUntil _
    have hlater : (b.sleep ms).Inv config := by
      rw [hsleep]
      exact { h with
        idle := h.idle.keep _ _ _
        stage := stage_keep h.stage b.client.link _ }
    exact hlater.quiet fun p => by
      rw [hsleep]
      rfl
  | answer item data => exact h.set ⟨rfl, rfl, rfl, rfl⟩ rfl
  | describe node browse display description value => exact h.set ⟨rfl, rfl, rfl, rfl⟩ rfl
  | failReads fail => exact h.set ⟨rfl, rfl, rfl, rfl⟩ rfl
  | reject node => exact h.set ⟨rfl, rfl, rfl, rfl⟩ rfl
  | allow node => exact h.set ⟨rfl, rfl, rfl, rfl⟩ rfl
  | delaySubscriptions ms => exact h.set ⟨rfl, rfl, rfl, rfl⟩ rfl
  | failConnect fail => exact h.set ⟨rfl, rfl, rfl, rfl⟩ rfl
  | failDiscovery fail => exact h.set ⟨rfl, rfl, rfl, rfl⟩ rfl
  | fire node value => exact h.fire node value

/-! ## Runs -/

/-- Records added one after another are added together. -/
theorem Adds.append {b' b'' : Bridge} {payloads more : List Payload} (h : Adds config b b' payloads)
    (hmore : Adds config b' b'' more) : Adds config b b'' (payloads ++ more) := by
  intro p
  obtain ⟨records, hrecords, hmatch⟩ := h p
  obtain ⟨others, hothers, hmatch'⟩ := hmore p
  refine ⟨records ++ others, ?_, ?_⟩
  · rw [hothers, hrecords, List.append_assoc]
  · rw [List.filter_append]
    exact List.rel_append hmatch hmatch'

/-- **Run**: every run keeps the invariant and adds exactly the records of what it tells. -/
theorem Inv.run (h : b.Inv config) (hpolling : config.pollingEnabled = false) (events : List Event) :
    (b.performAll events).Inv config ∧ Adds config b (b.performAll events) (b.told config events) := by
  induction events generalizing b with
  | nil => exact ⟨h, fun p => ⟨[], (List.append_nil _).symm, List.Forall₂.nil⟩⟩
  | cons e rest ih =>
    obtain ⟨hnext, hadds⟩ := h.step hpolling e
    obtain ⟨hend, hmore⟩ := ih hnext
    exact ⟨hend, hadds.append hmore⟩

/-- **Publication**: take any bridge that does not poll, over a new server and with a new broker, after
any events.  A node that it monitors has a first text among the configured ones.  Whatever happens from
then on, each partition gets, behind the records that it has, exactly one record for each change of a
monitored node whose first text belongs to the partition, in the order of the changes, and none else; and
each of these records reads back as what its change told. -/
theorem published_run (config : Config) (hpolling : config.pollingEnabled = false)
    (endpoints : List Endpoint) (before later : List Event) :
    let b := (unstarted config endpoints).performAll before
    (∀ node, b.client.isMonitored node = true → ∃ text, firstText? config.nodes node = some text)
    ∧ ∀ p, ∃ records, (b.performAll later).recordsOf p = b.recordsOf p ++ records
      ∧ List.Forall₂ config.Publishes
        ((b.told config later).filter fun payload => config.sinkTopic.partitionOf payload.nodeId = p)
        records := by
  intro b
  have h : b.Inv config := ((inv_unstarted config endpoints).run hpolling before).1
  refine ⟨fun node hnode => ?_, (h.run hpolling later).2⟩
  obtain ⟨text, hfirst, -⟩ := h.client.changes_monitored hnode (.int 0)
  exact ⟨text, hfirst⟩

/-- Two spellings of one node, and a node that the server refuses to monitor. -/
def plantExample : Config := { nodes := ["ns=0;i=1", "i=1", "i=2"] }

/-- The plant is started twice, with a subscription that takes its time. -/
def plantBefore : List Event :=
  [.reject ⟨0, .numeric 2⟩, .start, .delaySubscriptions 20, .start]

/-- Of the naming attributes of the first node one reads bad, then both nodes change. -/
def plantLater : List Event :=
  [.describe ⟨0, .numeric 1⟩ "Level" "Tank level" "" (.int 4),
    .answer ⟨⟨0, .numeric 1⟩, .displayName⟩ (.bad .nodeIdUnknown),
    .fire ⟨0, .numeric 1⟩ (.int 5), .fire ⟨0, .numeric 2⟩ (.int 6)]

theorem published_plantExample :
    let b := (unstarted plantExample [⟨"opc.tcp://mock:4840", .plain⟩]).performAll plantBefore
    plantExample.pollingEnabled = false
    ∧ b.told plantExample plantLater = [⟨"ns=0;i=1", "Level", "", "", "5"⟩]
    ∧ ∃ records, (b.performAll plantLater).recordsOf 0 = b.recordsOf 0 ++ records
      ∧ List.Forall₂ plantExample.Publishes
        ((b.told plantExample plantLater).filter fun payload =>
          plantExample.sinkTopic.partitionOf payload.nodeId = 0) records :=
  ⟨rfl, by decide +kernel, (published_run plantExample rfl _ plantBefore plantLater).2 0⟩

end Bridge

end FieldBridge
