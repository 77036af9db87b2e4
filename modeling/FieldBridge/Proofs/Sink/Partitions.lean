/-
  Messages and partitions.

  A sink chooses the partition of a message by its own settings, and the broker checks it against those
  with which the topic was created:

  1. **Partitions** — the partition of a key is its FNV-1a hash modulo the number of partitions, or
     modulo 1 if there are none (`toNat_partitionOf`).

  2. **Sends** — of records that are sent to a broker which accepts sends, those are stored whose topic has
     their partition (`takenFor_sends`).

  3. **Posting** — jobs run in any order; each message is either still to be sent or has been answered
     (`Posts.happen`).

  4. **Settings** — so no message is refused on a topic that was created by the settings of the sink, unless
     these have no partition, and on any other topic those are stored whose partition it has
     (`settled_partitions`).
-/

import Mathlib.Data.List.Forall2
import FieldBridge.Proofs.Broker.History
import FieldBridge.Proofs.Sink.Outbox
import FieldBridge.Proofs.Sink.Publishing

namespace FieldBridge

/-! ## Partitions -/

namespace Topic

/-- The FNV-1a hash in whole numbers: 64 bits of it are kept. -/
def fnv (bytes : Bytes) : Nat :=
  bytes.foldl (fun hash byte => (hash ^^^ byte.toNat) * 0x100000001b3 % UInt64.size) 0xcbf29ce484222325

theorem toNat_fnv1a (bytes : Bytes) : (fnv1a bytes).toNat = fnv bytes := by
  have hfold : ∀ hash : UInt64,
      (bytes.foldl (fun hash byte => (hash ^^^ byte.toUInt64) * 0x100000001b3) hash).toNat
        = bytes.foldl (fun hash byte => (hash ^^^ byte.toNat) * 0x100000001b3 % UInt64.size) hash.toNat := by
    induction bytes with
    | nil => exact fun _ => rfl
    | cons byte rest ih =>
      intro hash
      rw [List.foldl_cons, List.foldl_cons, ih, UInt64.toNat_mul, UInt64.toNat_xor,
        UInt8.toNat_toUInt64]
      rfl
  exact hfold _

/-- **The partition** of a key, with nothing lost where its number is cut to 32 bits. -/
theorem toNat_partitionOf (t : Topic) (key : String) :
    (t.partitionOf key).toNat = fnv (Utf8.ofString key) % max t.partitions.toNat 1 := by
  have hcount : (if t.partitions = 0 then 1 else t.partitions.toNat) = max t.partitions.toNat 1 := by
    split
    · rename_i hzero
      rw [hzero]
      rfl
    · rename_i hne
      have hpos : t.partitions.toNat ≠ 0 := fun hzero => hne (UInt32.toNat_inj.1 hzero)
      omega
  have hlt : fnv (Utf8.ofString key) % max t.partitions.toNat 1 < UInt32.size := by
    have hmod := Nat.mod_lt (fnv (Utf8.ofString key)) (show 0 < max t.partitions.toNat 1 by omega)
    have hsize : t.partitions.toNat < UInt32.size := t.partitions.toNat_lt
    have hone : 1 < UInt32.size := by decide
    omega
  simp only [partitionOf, hcount, toNat_fnv1a]
  exact UInt32.toNat_ofNat_of_lt' hlt

end Topic

/-! ## Sends -/

namespace Record

/-- Records as they are stored one behind the other, numbered from a number on. -/
def numbered (first : Nat) (records : List Record) : List StoredRecord :=
  records.mapIdx fun place r => ⟨r.partition, first + place, r.key, r.value⟩

theorem numbered_append (first : Nat) (records more : List Record) :
    numbered first (records ++ more) = numbered first records
      ++ numbered (first + records.length) more := by
  have hplace : ∀ place, first + (place + records.length) = first + records.length + place := by omega
  simp only [numbered, List.mapIdx_append, hplace]

end Record

namespace BrokerHistory

variable {h : BrokerHistory} {name : String} {t : Topic}

/-- Sends set neither the switch nor a topic. -/
theorem sends_keep (hset : h.settings? name = some t) (records : List Record) :
    isFailing (h ++ records.map .send) = h.isFailing
      ∧ settings? (h ++ records.map .send) name = some t := by
  induction records generalizing h with
  | nil => simpa using hset
  | cons r rest ih =>
    obtain ⟨hfailing, hsettings⟩ := ih (h.settings?_snoc_of_some hset (.send r))
    rw [List.map_cons, List.append_cons]
    exact ⟨hfailing.trans (h.isFailing_snoc (.send r)), hsettings⟩

/-- **Sends** to a topic: those are taken whose partition it has. -/
theorem takenFor_sends (hfailing : h.isFailing = false) (hset : h.settings? name = some t)
    (records : List Record) (hname : ∀ r ∈ records, r.topic = name) (q : UInt32) :
    takenFor (h ++ records.map .send) name q.toNat = h.takenFor name q.toNat
      ++ records.filter fun r => decide (r.partition = q) && decide (q < t.partitions) := by
  induction records generalizing h with
  | nil => simp
  | cons r rest ih =>
    obtain ⟨hown, hrest⟩ := List.forall_mem_cons.1 hname
    have hnext := ih ((h.isFailing_snoc (.send r)).trans hfailing)
      (h.settings?_snoc_of_some hset (.send r)) hrest
    have hadmits : h.admits r = decide (r.partition < t.partitions) := by
      simp [admits, hfailing, hown, hset]
    have hfirst : (h.takes (.send r)).filter
          (fun r => decide (r.topic = name) && decide (r.partition.toNat = q.toNat))
        = [r].filter fun r => decide (r.partition = q) && decide (q < t.partitions) := by
      rw [takes, hadmits]
      by_cases hq : r.partition = q
      · by_cases hlt : q < t.partitions <;> simp [hq, hlt, hown]
      · have hq' : r.partition.toNat ≠ q.toNat := fun heq => hq (UInt32.toNat_inj.1 heq)
        by_cases hlt : r.partition < t.partitions <;> simp [hq, hq', hlt]
    rw [List.map_cons, List.append_cons, hnext, takenFor_snoc, hfirst, List.append_assoc,
      ← List.filter_append]
    rfl

/-- The log of a partition, as the records taken for it. -/
theorem logOf_eq_numbered (h : BrokerHistory) (name : String) (q : Nat) :
    h.logOf name q = Record.numbered 0 (h.takenFor name q) := by
  simp [logOf, Record.numbered]

/-- The settings with which a topic is there once it has been asked for. -/
theorem settings?_ensured (h : BrokerHistory) (t : Topic) :
    settings? (h ++ [.ensure t]) t.name = some ((h.settings? t.name).getD t) := by
  have hown : settings? [.ensure t] t.name = some t := by simp [settings?]
  rw [h.settings?_snoc, hown]
  cases h.settings? t.name <;> rfl

/-- What sends to a topic add to its partitions, if it is asked for before. -/
theorem logOf_sends (hfailing : h.isFailing = false) (t : Topic) (records : List Record)
    (hname : ∀ r ∈ records, r.topic = t.name) (q : UInt32) :
    logOf (h ++ [.ensure t] ++ records.map .send) t.name q.toNat = h.logOf t.name q.toNat
      ++ Record.numbered (h.logOf t.name q.toNat).length (records.filter fun r =>
        decide (r.partition = q) && decide (q < ((h.settings? t.name).getD t).partitions)) := by
  have hfailing' : isFailing (h ++ [.ensure t]) = false := (h.isFailing_snoc (.ensure t)).trans hfailing
  have hsame : takenFor (h ++ [.ensure t]) t.name q.toNat = h.takenFor t.name q.toNat := by
    rw [takenFor_snoc]
    exact List.append_nil _
  have hlength : (Record.numbered 0 (h.takenFor t.name q.toNat)).length
      = (h.takenFor t.name q.toNat).length := List.length_mapIdx
  rw [logOf_eq_numbered, logOf_eq_numbered,
    takenFor_sends hfailing' (h.settings?_ensured t) records hname q, hsame, Record.numbered_append,
    hlength, Nat.zero_add]

end BrokerHistory

/-! ## Posting -/

namespace Sink

/-- What is logged about a message on a topic with a number of partitions: it is stored if its partition is
one of them, and refused for its partition otherwise. -/
def Answered (s : Sink) (partitions : UInt32) (m : Message) (notice : Notice) : Prop :=
  if (s.record m).partition < partitions then
    ∃ offset, notice = outcome (s.send m).1 (.ok ((s.record m).receipt offset))
  else notice = outcome (s.send m).1
    (.error (.invalidPartition s.topic.name (s.record m).partition))

/-- What a sink makes of a message depends on its settings alone. -/
theorem send_congr {s s' : Sink} (htopic : s'.topic = s.topic) (hformat : s'.format = s.format)
    (m : Message) : (s'.send m).1 = (s.send m).1 := by
  simp [send, record, htopic, hformat]

end Sink

/-- A record is answered by the settings of its topic. -/
theorem BrokerHistory.answered {h : BrokerHistory} {s : Sink} {t : Topic} (hfailing : h.isFailing = false)
    (hset : h.settings? s.topic.name = some t) (m : Message) :
    s.Answered t.partitions m (Sink.outcome (s.send m).1 (h.answer (s.record m))) := by
  have hset' : h.settings? (s.record m).topic = some t := hset
  unfold Sink.Answered BrokerHistory.answer
  rw [hfailing, hset']
  by_cases hlt : (s.record m).partition < t.partitions
  · rw [if_pos hlt]
    simp only [if_neg (UInt32.not_le.2 hlt)]
    exact ⟨_, rfl⟩
  · rw [if_neg hlt]
    simp only [if_pos (UInt32.not_lt.1 hlt)]
    rfl

namespace Outbox

/-- What can happen to an outbox whose gate is open. -/
inductive Event where
  | send (m : Message)
  /-- The ready job at this place runs. -/
  | run (place : Nat)

/-- One event. -/
def happen (o : Outbox) : Event → Outbox
  | .send m => o.send m
  | .run place => match o.ready[place]? with
    | some r => ({ o with ready := o.ready.eraseIdx place } : Outbox).run r
    | none => o

/-- The messages sent. -/
def messages (events : List Event) : List Message :=
  events.filterMap fun
    | .send m => some m
    | .run _ => none

variable {o : Outbox} {s : Sink} {h : BrokerHistory} {t : Topic} {sent order waiting : List Message}

/-- An open gate lets every job pass. -/
theorem run_of_open (hopen : o.gate.closed = false) (r : ReadyJob) : o.run r = o.deliver r.job := by
  unfold run
  split
  · rfl
  · simp [GatedBroker.arrive, hopen]

/-- Running a job leaves those that are ready. -/
theorem run_with_ready (o : Outbox) (r : ReadyJob) (ready : List ReadyJob) :
    ({ o with ready } : Outbox).run r = { o.run r with ready } := by
  unfold run
  split
  · rfl
  · dsimp only
    split <;> rfl

/-- Running all jobs is running the first of them as often as there are any. -/
theorem settle_eq (o : Outbox) :
    o.settle = (List.replicate o.ready.length (Event.run 0)).foldl happen o ∧ o.settle.ready = [] := by
  induction hready : o.ready generalizing o with
  | nil =>
    have hsame : o.settle = o := by
      obtain ⟨sink, gate, ready, notices⟩ := o
      obtain rfl : ready = [] := hready
      rfl
    rw [hsame]
    exact ⟨rfl, hready⟩
  | cons r rest ih =>
    have hnext : o.happen (.run 0) = { o.run r with ready := rest } := by
      simp [happen, hready, run_with_ready]
    have hsettle : o.settle = (o.happen (.run 0)).settle := by
      rw [hnext]
      simp [settle, hready, run_with_ready]
    have hrest : (o.happen (.run 0)).ready = rest := by rw [hnext]
    obtain ⟨hruns, hnone⟩ := ih _ hrest
    rw [hsettle]
    exact ⟨by rw [hruns, List.length_cons, List.replicate_succ, List.foldl_cons], hnone⟩

/-- The messages sent to an outbox: some have been answered, in an order of their own, and of the others
there are jobs that are ready.  The broker holds what it held at first and the records of the former. -/
structure Posts (s : Sink) (h : BrokerHistory) (t : Topic) (sent order waiting : List Message)
    (o : Outbox) : Prop where
  topic : o.sink.topic = s.topic
  format : o.sink.format = s.format
  opened : o.gate.closed = false
  broker : o.gate.broker.Reflects (h ++ (order.map s.record).map .send)
  ready : o.ready.map (·.job) = waiting.map fun m => (s.send m).1
  perm : (order ++ waiting).Perm sent
  notices : List.Forall₂ (s.Answered t.partitions) order.reverse o.notices

/-- A message is sent. -/
theorem Posts.send (hposts : Posts s h t sent order waiting o) (m : Message) :
    Posts s h t (sent ++ [m]) order (waiting ++ [m]) (o.send m) where
  topic := hposts.topic
  format := hposts.format
  opened := hposts.opened
  broker := hposts.broker
  ready := by
    have hjob := Sink.send_congr hposts.topic hposts.format m
    simp only [Outbox.send, List.map_append, hposts.ready, hjob]
    rfl
  perm := by
    rw [← List.append_assoc]
    exact hposts.perm.append_right _
  notices := hposts.notices

/-- The broker answers the job of a message. -/
theorem Posts.deliver (hposts : Posts s h t sent order waiting o) (hfailing : h.isFailing = false)
    (hset : h.settings? s.topic.name = some t) {place : Nat} {m : Message}
    (hm : waiting[place]? = some m) :
    Posts s h t sent (order ++ [m]) (waiting.eraseIdx place)
      (({ o with ready := o.ready.eraseIdx place } : Outbox).deliver (s.send m).1) where
  topic := hposts.topic
  format := hposts.format
  opened := hposts.opened
  broker := by
    have hnext := hposts.broker.send (s.record m)
    rw [List.append_assoc] at hnext
    rw [List.map_append, List.map_append]
    exact hnext
  ready := by
    show (o.ready.eraseIdx place).map (·.job) = _
    rw [← List.eraseIdx_map, hposts.ready, List.eraseIdx_map]
  perm := by
    rw [List.append_assoc]
    exact ((perm_eraseIdx hm).symm.append_left order).trans hposts.perm
  notices := by
    obtain ⟨hnever, hstays⟩ := BrokerHistory.sends_keep hset (order.map s.record)
    have hanswer := BrokerHistory.answered (hnever.trans hfailing) hstays m
    rw [← hposts.broker.answer] at hanswer
    rw [List.reverse_append]
    exact .cons hanswer hposts.notices

/-- **Step**: a message that is sent waits, and one whose job runs is answered. -/
theorem Posts.happen (hposts : Posts s h t sent order waiting o) (hfailing : h.isFailing = false)
    (hset : h.settings? s.topic.name = some t) (e : Event) :
    ∃ order' waiting', Posts s h t (sent ++ messages [e]) order' waiting' (o.happen e) := by
  cases e with
  | send m => exact ⟨_, _, hposts.send m⟩
  | run place =>
    have hsent : sent ++ messages [.run place] = sent := List.append_nil sent
    rw [hsent]
    simp only [Outbox.happen]
    split
    · rename_i r hr
      have hjob : (waiting.map fun m => (s.send m).1)[place]? = some r.job := by
        rw [← hposts.ready, List.getElem?_map, hr]
        rfl
      rw [List.getElem?_map] at hjob
      obtain ⟨m, hm, hown⟩ := Option.map_eq_some_iff.1 hjob
      refine ⟨order ++ [m], waiting.eraseIdx place, ?_⟩
      rw [run_of_open (o := { o with ready := o.ready.eraseIdx place }) hposts.opened, ← hown]
      exact hposts.deliver hfailing hset hm
    · exact ⟨order, waiting, hposts⟩

/-- **Run** of an outbox. -/
theorem Posts.happens (hposts : Posts s h t sent order waiting o) (hfailing : h.isFailing = false)
    (hset : h.settings? s.topic.name = some t) (events : List Event) :
    ∃ order' waiting', Posts s h t (sent ++ messages events) order' waiting'
      (events.foldl Outbox.happen o) := by
  induction events generalizing o sent order waiting with
  | nil => exact ⟨order, waiting, by simpa [messages] using hposts⟩
  | cons e rest ih =>
    obtain ⟨order', waiting', hnext⟩ := hposts.happen hfailing hset e
    obtain ⟨order'', waiting'', hend⟩ := ih hnext
    have hall : messages (e :: rest) = messages [e] ++ messages rest :=
      List.filterMap_append (l := [e])
    refine ⟨order'', waiting'', ?_⟩
    rw [hall, ← List.append_assoc]
    exact hend

/-! ## Settings -/

/-- Messages have been posted, in an order: each partition has got, behind its old records, those of the
messages bound for it if the topic has it, and each message has been answered. -/
structure Posted (s : Sink) (partitions : UInt32) (before : Outbox) (order : List Message) (o : Outbox) :
    Prop where
  records : ∀ q, o.recordsOf q = before.recordsOf q
    ++ Record.numbered (before.recordsOf q).length ((order.map s.record).filter fun r =>
      decide (r.partition = q) && decide (q < partitions))
  notices : List.Forall₂ (s.Answered partitions) order o.notices.reverse

/-- All that a sink posts arrives by the settings of the topic. -/
theorem posted_settle (s : Sink) (hfailing : h.isFailing = false) (events : List Event) :
    let before : Outbox := { sink := s, gate := { broker := MemoryBroker.run {} h } }
    ∃ order, order.Perm (messages events)
      ∧ Posted s ((h.settings? s.topic.name).getD s.topic).partitions before order
        (events.foldl happen before.ensure.2).settle := by
  intro before
  have hreflects : (MemoryBroker.run {} h).Reflects h :=
    MemoryBroker.reflects_run MemoryBroker.reflects_empty h
  have hfirst : Posts s (h ++ [.ensure s.topic]) ((h.settings? s.topic.name).getD s.topic) [] [] []
      before.ensure.2 := {
    topic := rfl
    format := rfl
    opened := rfl
    broker := by
      rw [List.map_nil, List.map_nil, List.append_nil]
      exact hreflects.ensure s.topic
    ready := rfl
    perm := List.Perm.refl _
    notices := .nil }
  have hnever := (h.isFailing_snoc (.ensure s.topic)).trans hfailing
  have hset := h.settings?_ensured s.topic
  obtain ⟨order, waiting, hposts⟩ := hfirst.happens hnever hset events
  obtain ⟨hruns, hready⟩ := (events.foldl happen before.ensure.2).settle_eq
  obtain ⟨order', waiting', hend⟩ := hposts.happens hnever hset (List.replicate _ (.run 0))
  rw [← hruns] at hend
  have hnone : waiting' = [] := by
    have hjobs := hend.ready
    rw [hready] at hjobs
    exact List.map_eq_nil_iff.1 hjobs.symm
  have hperm := hend.perm
  rw [hnone, List.append_nil] at hperm
  have hmessages : ∀ count, messages (List.replicate count (.run 0)) = [] := fun count => by
    simp [messages]
  rw [hmessages, List.append_nil, List.nil_append] at hperm
  refine ⟨order', hperm, fun q => ?_,
    List.forall₂_reverse_iff.1 (by rw [List.reverse_reverse]; exact hend.notices)⟩
  have hbefore : before.recordsOf q = h.logOf s.topic.name q.toNat := hreflects.logs _ q
  have hafter := hend.broker.logs s.topic.name q
  rw [hbefore, ← BrokerHistory.logOf_sends hfailing s.topic (order'.map s.record) ?_ q, ← hafter]
  · rw [recordsOf, hend.topic]
  · intro r hr
    obtain ⟨m, -, rfl⟩ := List.mem_map.1 hr
    rfl

variable {before : Outbox}

/-- By the sink's own settings every message is stored, if these have a partition. -/
theorem Posted.stored (h : Posted s s.topic.partitions before order o)
    (hempty : ∀ q, before.recordsOf q = []) (hsome : s.topic.partitions ≠ 0) :
    (∀ q, o.recordsOf q
      = Record.numbered 0 ((order.map s.record).filter fun r => decide (r.partition = q)))
    ∧ List.Forall₂ (fun m notice => ∃ offset, notice
      = Sink.outcome (s.send m).1 (.ok ((s.record m).receipt offset))) order o.notices.reverse := by
  -- the partition of every key is one of the sink's own
  have hlt : ∀ m : Message, (s.record m).partition < s.topic.partitions := fun m =>
    Topic.partitionOf_lt hsome m.key.nodeId
  refine ⟨fun q => ?_, h.notices.imp fun m notice hanswered => ?_⟩
  · rw [h.records q, hempty q, List.nil_append, List.length_nil]
    refine congrArg (Record.numbered 0) (List.filter_congr fun r hr => ?_)
    obtain ⟨m, -, rfl⟩ := List.mem_map.1 hr
    by_cases hq : (s.record m).partition = q
    · simp [← hq, hlt m]
    · simp [hq]
  · rwa [Sink.Answered, if_pos (hlt m)] at hanswered

/-- By settings without a partition every message is refused. -/
theorem Posted.refused (h : Posted s s.topic.partitions before order o)
    (hempty : ∀ q, before.recordsOf q = []) (hnone : s.topic.partitions = 0) :
    (∀ q, o.recordsOf q = [])
    ∧ List.Forall₂ (fun m notice => notice
      = Sink.outcome (s.send m).1 (.error (.invalidPartition s.topic.name 0))) order
        o.notices.reverse := by
  have hnever : ∀ q, ¬ q < s.topic.partitions := fun q => hnone ▸ UInt32.not_lt_zero
  have hzero : ∀ m : Message, (s.record m).partition = 0 := by
    intro m
    have hpartition := s.topic.toNat_partitionOf m.key.nodeId
    rw [hnone] at hpartition
    exact UInt32.toNat_inj.1 (hpartition.trans (Nat.mod_one _))
  refine ⟨fun q => ?_, h.notices.imp fun m notice hanswered => ?_⟩
  · rw [h.records q, hempty q]
    simp [hnever q, Record.numbered]
  · rwa [Sink.Answered, if_neg (hnever _), hzero m] at hanswered

/-- **Settings**: a sink asks a broker that accepts sends for its topic, and then messages are sent and their
jobs run in any order, until none is left.  The partition of a message is the hash of its node id modulo the
number of partitions, and at least 1.  If the topic is new, every message is stored in its partition, unless
the sink's own settings have no partition, when each is refused for that.  If it was there before, those are
stored whose partition it has.  The usual settings have a partition. -/
theorem settled_partitions (c : Topic) (format : Format) (h : BrokerHistory)
    (hfailing : h.isFailing = false) (events : List Event) :
    let s : Sink := { topic := c, format }
    let before : Outbox := { sink := s, gate := { broker := MemoryBroker.run {} h } }
    let o := (events.foldl happen before.ensure.2).settle
    before.ensure.1 = .ok () ∧ o.ready = []
    ∧ (∀ m, (s.record m).partition.toNat
      = Topic.fnv (Utf8.ofString m.payload.nodeId) % max c.partitions.toNat 1)
    ∧ (∃ order : List Message, order.Perm (messages events)
      ∧ (h.settings? c.name = none → c.partitions ≠ 0 →
        (∀ q, o.recordsOf q
          = Record.numbered 0 ((order.map s.record).filter fun r => decide (r.partition = q)))
        ∧ List.Forall₂ (fun m notice => ∃ offset, notice
          = Sink.outcome (s.send m).1 (.ok ((s.record m).receipt offset))) order o.notices.reverse)
      ∧ (h.settings? c.name = none → c.partitions = 0 → (∀ q, o.recordsOf q = [])
        ∧ List.Forall₂ (fun m notice => notice
          = Sink.outcome (s.send m).1 (.error (.invalidPartition c.name 0))) order o.notices.reverse)
      ∧ ∀ t, h.settings? c.name = some t → Posted s t.partitions before order o)
    ∧ ∀ name partitions replication, (Topic.create name partitions replication).partitions ≠ 0 := by
  intro s before o
  obtain ⟨order, hperm, hposted⟩ := posted_settle s hfailing events
  have hempty : h.settings? c.name = none → ∀ q, before.recordsOf q = [] := by
    intro hnew q
    have hlog := (MemoryBroker.reflects_run MemoryBroker.reflects_empty h).log?_eq_none.2 hnew
    show (MemoryBroker.run {} h).recordsOf c.name q = []
    rw [MemoryBroker.recordsOf, hlog]
  have hown : h.settings? c.name = none → Posted s c.partitions before order o := by
    intro hnew
    rwa [show h.settings? s.topic.name = none from hnew] at hposted
  refine ⟨rfl, (events.foldl happen before.ensure.2).settle_eq.2, fun m => c.toNat_partitionOf _,
    ⟨order, hperm, fun hnew hsome => ?_, fun hnew hnone => ?_, fun t ht => ?_⟩, Topic.partitions_create_ne⟩
  · exact (hown hnew).stored (hempty hnew) hsome
  · exact (hown hnew).refused (hempty hnew) hnone
  · rwa [show h.settings? s.topic.name = some t from ht] at hposted

/-- Two messages about different nodes; the job of the later one runs first. -/
def swappedExample : List Event :=
  [.send ⟨⟨"plant", "1", default⟩, ⟨"i=1", "", "", "", "5"⟩⟩,
    .send ⟨⟨"plant", "2", default⟩, ⟨"i=2", "", "", "", "6"⟩⟩, .run 1]

theorem settled_partitions_swappedExample :
    let h : BrokerHistory := [.setFailing true, .ensure ⟨"other", 1, 1⟩, .setFailing false]
    let s : Sink := { topic := ⟨"events", 3, 1⟩, format := .json }
    h.isFailing = false ∧ h.settings? "events" = none
    ∧ ∃ order : List Message, order.Perm (messages swappedExample)
      ∧ ∀ q, (swappedExample.foldl happen
          ({ sink := s, gate := { broker := MemoryBroker.run {} h } } : Outbox).ensure.2).settle.recordsOf q
        = Record.numbered 0 ((order.map s.record).filter fun r => decide (r.partition = q)) := by
  refine ⟨rfl, rfl, ?_⟩
  obtain ⟨-, -, -, ⟨order, hperm, hnew, -, -⟩, -⟩ := settled_partitions ⟨"events", 3, 1⟩ .json
    [.setFailing true, .ensure ⟨"other", 1, 1⟩, .setFailing false] rfl swappedExample
  exact ⟨order, hperm, (hnew rfl (by decide)).1⟩

end Outbox

end FieldBridge
