/-
  Two brokers that agree.

  The in-process broker numbers a record by the records that its partition holds; the MQTT broker holds
  none and keeps a counter for each topic and partition instead.

  1. **Events** — both brokers get the same calls, one after another.  Topics are asked for and sends made
     to fail at any time, and acknowledgements arrive at any time.

  2. **Simulation** (`Simulates`) — as long as a record is accepted by both or refused by both, the counter
     of a partition and the length of its log are the number of records accepted for it.

  3. **Agreement** (`same_receipts`) — so both give a record the same receipt.
-/

import FieldBridge.Proofs.Broker.Acknowledgement
import FieldBridge.Proofs.Broker.History

namespace FieldBridge

/-! ## One send -/

namespace MqttBroker

/-- An accepted record gets the number at which the counter of its partition stands. -/
theorem send_of_isOk (b : MqttBroker) (r : Record) (h : (b.send r).1.isOk = true) :
    (b.send r).1 = .ok (r.receipt (b.nextOffset r.topic r.partition)) := by
  unfold send settle at h ⊢
  split at h
  · rename_i haccepts
    rw [if_pos haccepts]
    rfl
  · cases h

/-- It moves that counter on by one, and no other. -/
theorem nextOffset_send (b : MqttBroker) (r : Record) (topic : String) (partition : UInt32) :
    (b.send r).2.nextOffset topic partition = b.nextOffset topic partition
      + if (b.send r).1.isOk = true ∧ r.topic = topic ∧ r.partition = partition then 1 else 0 := by
  unfold send settle
  split
  · apply (nextOffset_accepted b.beginSend r topic partition).trans
    by_cases hown : r.topic = topic ∧ r.partition = partition
    · obtain ⟨rfl, rfl⟩ := hown
      rw [if_pos rfl, if_pos ⟨rfl, rfl, rfl⟩]
      rfl
    · have hother : (topic, partition) ≠ (r.topic, r.partition) := by
        intro hsame
        injection hsame with htopic hpartition
        exact hown ⟨htopic.symm, hpartition.symm⟩
      rw [if_neg hother, if_neg fun hall => hown hall.2]
      rfl
  · rw [if_neg fun hall => Bool.false_ne_true hall.1]
    rfl

end MqttBroker

namespace BrokerHistory

/-- A history accepts the records that it admits, numbered by those taken before for their partitions. -/
theorem answer_cases (h : BrokerHistory) (r : Record) :
    (h.admits r = true
      ∧ h.answer r = .ok (r.receipt (h.takenFor r.topic r.partition.toNat).length))
    ∨ (h.admits r = false ∧ ∃ e, h.answer r = .error e) := by
  unfold admits answer
  cases h.isFailing with
  | true => exact Or.inr ⟨rfl, _, rfl⟩
  | false =>
    cases h.settings? r.topic with
    | none => exact Or.inr ⟨rfl, _, rfl⟩
    | some t =>
      by_cases hlt : r.partition < t.partitions
      · left
        constructor
        · simp [hlt]
        · simp [UInt32.not_le.2 hlt, Record.receipt]
      · right
        constructor
        · simp [hlt]
        · simp [UInt32.not_lt.1 hlt]

theorem isOk_answer (h : BrokerHistory) (r : Record) : (h.answer r).isOk = h.admits r := by
  rcases h.answer_cases r with ⟨hadmits, heq⟩ | ⟨hadmits, e, heq⟩
  · rw [heq, hadmits]
    rfl
  · rw [heq, hadmits]
    rfl

/-- An accepted record gets the number of those taken before for its partition. -/
theorem answer_of_isOk (h : BrokerHistory) (r : Record) (hok : (h.answer r).isOk = true) :
    h.answer r = .ok (r.receipt (h.takenFor r.topic r.partition.toNat).length) := by
  rcases h.answer_cases r with ⟨-, heq⟩ | ⟨-, e, heq⟩
  · exact heq
  · rw [heq] at hok
    cases hok

/-- A record that is taken makes the log of its partition longer by one, and no other. -/
theorem length_takenFor_snoc (h : BrokerHistory) (r : Record) (topic : String) (p : Nat) :
    (takenFor (h ++ [.send r]) topic p).length = (h.takenFor topic p).length
      + if h.admits r = true ∧ r.topic = topic ∧ r.partition.toNat = p then 1 else 0 := by
  rw [h.takenFor_snoc, List.length_append]
  congr 1
  simp only [takes]
  cases h.admits r with
  | false => rfl
  | true =>
    rw [if_pos rfl]
    by_cases hown : r.topic = topic ∧ r.partition.toNat = p
    · simp [hown]
    · rw [if_neg fun hall => hown hall.2]
      rw [not_and_or] at hown
      rcases hown with htopic | hpartition
      · simp [htopic]
      · simp [hpartition]

end BrokerHistory

/-! ## Events -/

/-- An MQTT broker and an in-process one that get the same calls. -/
structure BrokerPair where
  mqtt : MqttBroker := {}
  memory : MemoryBroker := {}

namespace BrokerPair

/-- What the two answer to a record. -/
structure Answers where
  record : Record
  mqtt : Except BrokerError Receipt
  memory : Except BrokerError Receipt

/-- What can happen. -/
inductive Event where
  /-- Both are called.  To the MQTT broker only a send means anything: it has no topics to create, and no
  switch that makes it fail. -/
  | call (c : BrokerCall)
  /-- The MQTT broker gets an acknowledgement. -/
  | acknowledge

/-- One event, with the answers if it was a send. -/
def step (p : BrokerPair) : Event → Option Answers × BrokerPair
  | .call (.send r) =>
    let (given, mqtt) := p.mqtt.send r
    let (stored, memory) := p.memory.send r
    (some ⟨r, given, stored⟩, ⟨mqtt, memory⟩)
  | .call (.ensure t) => (none, { p with memory := p.memory.ensure t })
  | .call (.setFailing on) => (none, { p with memory := p.memory.setFailing on })
  | .acknowledge => (none, { p with mqtt := p.mqtt.acknowledge })

/-- Events, one after another, with all answers. -/
def run : BrokerPair → List Event → List Answers × BrokerPair
  | p, [] => ([], p)
  | p, e :: rest =>
    let (answers, p) := p.step e
    let (more, p) := run p rest
    (answers.toList ++ more, p)

/-! ## Specification -/

namespace Answers

/-- Both accept, or both refuse. -/
def Unanimous (a : Answers) : Prop := a.mqtt.isOk = a.memory.isOk

instance (a : Answers) : Decidable a.Unanimous := inferInstanceAs (Decidable (_ = _))

/-- The record was accepted for a partition of a topic. -/
def isFor (topic : String) (partition : UInt32) (a : Answers) : Bool :=
  a.memory.isOk && decide (a.record.topic = topic) && decide (a.record.partition = partition)

/-- The receipt that a record is due behind answers: its number is that of the records accepted before for
its partition. -/
def due (before : List Answers) (r : Record) : Receipt :=
  r.receipt (before.countP (isFor r.topic r.partition))

/-- An accepted record gets the receipt that it is due, from both. -/
def Agrees (before : List Answers) (a : Answers) : Prop :=
  a.mqtt.isOk = true → a.mqtt = .ok (due before a.record) ∧ a.memory = .ok (due before a.record)

end Answers

/-! ## Simulation -/

/-- Counters and logs both count the records accepted so far. -/
structure Simulates (before : List Answers) (p : BrokerPair) : Prop where
  counted : ∀ topic partition,
    p.mqtt.nextOffset topic partition = before.countP (Answers.isFor topic partition)
  stored : ∃ h : BrokerHistory, p.memory.Reflects h ∧ ∀ topic partition,
    (h.takenFor topic partition.toNat).length = before.countP (Answers.isFor topic partition)

variable {p : BrokerPair} {before : List Answers}

theorem simulates_start : Simulates [] {} where
  counted := fun _ _ => rfl
  stored := ⟨[], MemoryBroker.reflects_empty, fun _ _ => rfl⟩

/-! ## Steps -/

/-- Answers count for the partition of their record if it was accepted. -/
theorem countP_snoc (before : List Answers) (a : Answers) (topic : String) (partition : UInt32) :
    (before ++ [a]).countP (Answers.isFor topic partition)
      = before.countP (Answers.isFor topic partition)
        + if a.memory.isOk = true ∧ a.record.topic = topic ∧ a.record.partition = partition then 1
          else 0 := by
  rw [List.countP_append, List.countP_singleton]
  simp only [Answers.isFor, Bool.and_eq_true, decide_eq_true_eq, and_assoc]

/-- An accepted record gets the receipt that it is due. -/
theorem Simulates.agrees (hp : Simulates before p) {r : Record}
    (hsame : Answers.Unanimous ⟨r, (p.mqtt.send r).1, (p.memory.send r).1⟩) :
    Answers.Agrees before ⟨r, (p.mqtt.send r).1, (p.memory.send r).1⟩ := by
  intro haccepted
  obtain ⟨h, hreflects, hstored⟩ := hp.stored
  constructor
  · show (p.mqtt.send r).1 = _
    rw [p.mqtt.send_of_isOk r haccepted, hp.counted]
    rfl
  · have hanswer := hreflects.answer r
    have hok : (h.answer r).isOk = true := by
      rw [← hanswer]
      exact hsame.symm.trans haccepted
    have heq := h.answer_of_isOk r hok
    rw [hstored] at heq
    exact hanswer.trans heq

/-- A record that both accept, or both refuse, is counted alike. -/
theorem Simulates.send (hp : Simulates before p) {r : Record}
    (hsame : Answers.Unanimous ⟨r, (p.mqtt.send r).1, (p.memory.send r).1⟩) :
    Simulates (before ++ [⟨r, (p.mqtt.send r).1, (p.memory.send r).1⟩])
      ⟨(p.mqtt.send r).2, (p.memory.send r).2⟩ := by
  obtain ⟨h, hreflects, hstored⟩ := hp.stored
  have hanswer := hreflects.answer r
  constructor
  · intro topic partition
    -- the answers count as the in-process broker took them, the counter as the other one did
    rw [countP_snoc, MqttBroker.nextOffset_send, hp.counted, hsame]
  · refine ⟨h ++ [.send r], hreflects.send r, fun topic partition => ?_⟩
    rw [countP_snoc, h.length_takenFor_snoc, hstored, ← h.isOk_answer, ← hanswer]
    -- the history tells partitions apart by their numbers
    simp only [UInt32.toNat_inj]

/-- A call that takes no record. -/
theorem Simulates.skip (hp : Simulates before p) {c : BrokerCall} (hc : ∀ h, BrokerHistory.takes h c = []) :
    Simulates before { p with memory := p.memory.perform c } := by
  obtain ⟨h, hreflects, hstored⟩ := hp.stored
  refine ⟨hp.counted, h ++ [c], hreflects.perform c, fun topic partition => ?_⟩
  rw [h.takenFor_snoc, hc h, List.filter_nil, List.append_nil]
  exact hstored topic partition

/-- **Step**: as long as the two are unanimous, counters and logs count the same records, and a record gets
the receipt that it is due. -/
theorem Simulates.step (hp : Simulates before p) (e : Event)
    (hsame : ∀ a ∈ (p.step e).1, a.Unanimous) :
    Simulates (before ++ (p.step e).1.toList) (p.step e).2
      ∧ ∀ a ∈ (p.step e).1, a.Agrees before := by
  cases e with
  | acknowledge =>
    refine ⟨?_, fun a ha => nomatch ha⟩
    have hnext : Simulates before { p with mqtt := p.mqtt.acknowledge } := ⟨hp.counted, hp.stored⟩
    rwa [← List.append_nil before] at hnext
  | call c =>
    cases c with
    | send r =>
      have hsame := hsame _ rfl
      refine ⟨hp.send hsame, fun a ha => ?_⟩
      obtain rfl := Option.some.inj ha
      exact hp.agrees hsame
    | ensure t =>
      refine ⟨?_, fun a ha => nomatch ha⟩
      have hnext := hp.skip (c := .ensure t) fun _ => rfl
      rwa [← List.append_nil before] at hnext
    | setFailing on =>
      refine ⟨?_, fun a ha => nomatch ha⟩
      have hnext := hp.skip (c := .setFailing on) fun _ => rfl
      rwa [← List.append_nil before] at hnext

/-! ## Agreement -/

/-- **Run**: as long as the two are unanimous, every record gets the receipt that it is due behind all
answers before it. -/
theorem Simulates.run (hp : Simulates before p) (events : List Event)
    (hsame : ∀ a ∈ (p.run events).1, a.Unanimous) {front : List Answers} {a : Answers}
    {behind : List Answers} (hsplit : (p.run events).1 = front ++ a :: behind) :
    a.Agrees (before ++ front) := by
  induction events generalizing p before front with
  | nil => exact absurd hsplit (by simp [BrokerPair.run])
  | cons e rest ih =>
    have hrun : (p.run (e :: rest)).1 = (p.step e).1.toList ++ ((p.step e).2.run rest).1 := rfl
    rw [hrun] at hsame hsplit
    obtain ⟨hnext, hown⟩ := hp.step e fun a ha =>
      hsame a (List.mem_append_left _ (Option.mem_toList.2 ha))
    have hlater := fun a ha => hsame a (List.mem_append_right _ ha)
    -- the record in question was sent by this event, or by a later one
    cases hanswers : (p.step e).1 with
    | none =>
      rw [hanswers, Option.toList_none, List.nil_append] at hsplit
      rw [hanswers, Option.toList_none, List.append_nil] at hnext
      exact ih hnext hlater hsplit
    | some first =>
      rw [hanswers] at hsplit hnext
      cases front with
      | nil =>
        obtain rfl : first = a := (List.cons.inj hsplit).1
        rw [List.append_nil]
        exact hown first hanswers
      | cons x more =>
        obtain ⟨rfl, hrest⟩ := List.cons.inj hsplit
        have hdone := ih hnext hlater hrest
        rwa [List.append_assoc] at hdone

/-- **Agreement**: two brokers that start empty and are unanimous about every record give an accepted record
the same receipt, whatever topics and partitions the records are of. -/
theorem same_receipts (events : List Event)
    (hsame : ∀ a ∈ (BrokerPair.run {} events).1, a.Unanimous) (front : List Answers) (a : Answers)
    (behind : List Answers) (hsplit : (BrokerPair.run {} events).1 = front ++ a :: behind) :
    a.Agrees front :=
  simulates_start.run events hsame hsplit

/-- Two topics and three partitions, with an acknowledgement in between and one that comes late. -/
def mixedRun : List Event :=
  [.call (.ensure ⟨"t", 2, 1⟩), .call (.ensure ⟨"u", 1, 1⟩), .call (.send ⟨"t", 1, [1], [10]⟩),
    .call (.send ⟨"u", 0, [1], [20]⟩), .acknowledge, .call (.send ⟨"t", 0, [2], [30]⟩),
    .call (.send ⟨"t", 1, [3], [40, 41]⟩), .acknowledge]

theorem same_receipts_mixed : (∀ a ∈ (BrokerPair.run {} mixedRun).1, a.Unanimous)
    ∧ ((BrokerPair.run {} mixedRun).1.map (·.mqtt))[3]? = some (.ok ⟨"t", 1, 1, 1, 2⟩)
    ∧ ((BrokerPair.run {} mixedRun).1.map (·.memory))[3]? = some (.ok ⟨"t", 1, 1, 1, 2⟩) := by
  have hsame : ∀ a ∈ (BrokerPair.run {} mixedRun).1, a.Unanimous := by decide +kernel
  have hsplit : (BrokerPair.run {} mixedRun).1
      = (BrokerPair.run {} mixedRun).1.take 3 ++ (BrokerPair.run {} mixedRun).1[3] :: [] := rfl
  have haccepted : (BrokerPair.run {} mixedRun).1[3].mqtt.isOk = true := by decide +kernel
  obtain ⟨hmqtt, hmemory⟩ := same_receipts mixedRun hsame _ _ _ hsplit haccepted
  exact ⟨hsame, congrArg some hmqtt, congrArg some hmemory⟩

end BrokerPair

end FieldBridge
