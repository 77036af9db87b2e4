/-
  A broker and its history.

  A broker keeps topics, shelves and offsets, and changes them in place.  All of that is said by the list
  of the calls made to it, which only grows:

  1. **History** — whether sends are failing is what was set last; the settings of a topic are those with
     which it was first asked for; a send is taken if what was called before it admits it; and the records
     of a partition are the sends taken for it, in order, numbered from 0.

  2. **Reflection** (`Reflects`) — a broker's switch, settings and partitions are those of the history.
     Every call keeps that (`Reflects.perform`), so every run from an empty broker does.

  3. **Refinement** (`describes_run`) — after any calls, what a broker shows and how it answers the next
     send is what the history says.
-/

import Mathlib.Data.List.Basic
import FieldBridge.Proofs.Broker.Memory

namespace FieldBridge

/-- A call of a broker. -/
inductive BrokerCall where
  | ensure (t : Topic)
  | send (r : Record)
  | setFailing (on : Bool)

/-- The calls of a broker, oldest first. -/
abbrev BrokerHistory := List BrokerCall

namespace MemoryBroker

/-- One call. -/
def perform (b : MemoryBroker) : BrokerCall → MemoryBroker
  | .ensure t => b.ensure t
  | .send r => (b.send r).2
  | .setFailing on => b.setFailing on

/-- A run. -/
def run (b : MemoryBroker) (h : BrokerHistory) : MemoryBroker := h.foldl perform b

end MemoryBroker

/-! ## What a history says -/

namespace BrokerHistory

/-- Sends are failing: what was set last, and not at first. -/
def isFailing (h : BrokerHistory) : Bool :=
  ((h.filterMap fun
    | .setFailing on => some on
    | _ => none).getLast?).getD false

/-- The settings with which a topic was first asked for. -/
def settings? (h : BrokerHistory) (name : String) : Option Topic :=
  h.findSome? fun
    | .ensure t => if t.name = name then some t else none
    | _ => none

/-- The next send is taken: sends are not failing, and the topic was asked for and has the partition. -/
def admits (h : BrokerHistory) (r : Record) : Bool :=
  !h.isFailing && (h.settings? r.topic).any fun t => decide (r.partition < t.partitions)

/-- The record that a call adds to those taken, given what was called before it. -/
def takes (before : BrokerHistory) : BrokerCall → List Record
  | .send r => if before.admits r then [r] else []
  | _ => []

/-- The records taken, oldest first. -/
def taken (h : BrokerHistory) : List Record := h.zipIdx.flatMap fun (c, place) => takes (h.take place) c

/-- The records taken for a partition of a topic. -/
def takenFor (h : BrokerHistory) (name : String) (p : Nat) : List Record :=
  h.taken.filter fun r => decide (r.topic = name) && decide (r.partition.toNat = p)

/-- The log of a partition: what was taken for it, numbered from 0. -/
def logOf (h : BrokerHistory) (name : String) (p : Nat) : List StoredRecord :=
  (h.takenFor name p).mapIdx fun offset r => ⟨r.partition, offset, r.key, r.value⟩

/-- The records of a topic, partition by partition in ascending order. -/
def records (h : BrokerHistory) (name : String) : List StoredRecord :=
  match h.settings? name with
  | none => []
  | some t => (List.range t.partitions.toNat).flatMap (h.logOf name)

/-- How the next send is answered: the first objection counts, and without one the answer names the
record's topic, partition, offset and sizes. -/
def answer (h : BrokerHistory) (r : Record) : Except BrokerError Receipt :=
  if h.isFailing then .error (.send "broker unavailable")
  else match h.settings? r.topic with
    | none => .error (.unknownTopic r.topic)
    | some t =>
      if t.partitions ≤ r.partition then .error (.invalidPartition r.topic r.partition)
      else .ok ⟨r.topic, r.partition, (h.takenFor r.topic r.partition.toNat).length, r.key.length,
        r.value.length⟩

variable (h : BrokerHistory)

/-! ### One more call -/

theorem isFailing_snoc (c : BrokerCall) : isFailing (h ++ [c]) = match c with
    | .setFailing on => on
    | _ => h.isFailing := by
  unfold isFailing
  rw [List.filterMap_append]
  cases c with
  | setFailing on => simp
  | ensure t => simp
  | send r => simp

theorem settings?_snoc (c : BrokerCall) (name : String) :
    settings? (h ++ [c]) name = (h.settings? name).or (settings? [c] name) := by
  unfold settings?
  rw [List.findSome?_append]

/-- Only asking for a topic sets it. -/
theorem settings?_snoc_of_some {name : String} {t : Topic} (hset : h.settings? name = some t)
    (c : BrokerCall) : settings? (h ++ [c]) name = some t := by
  rw [settings?_snoc, hset, Option.some_or]

/-- A send sets none. -/
theorem settings?_snoc_send (r : Record) (name : String) :
    settings? (h ++ [.send r]) name = h.settings? name := by
  rw [settings?_snoc]
  simp [settings?]

/-- What was taken does not depend on what is called later. -/
theorem taken_snoc (c : BrokerCall) : taken (h ++ [c]) = h.taken ++ h.takes c := by
  unfold taken
  rw [List.zipIdx_append, List.flatMap_append]
  congr 1
  · refine List.flatMap_congr fun x hx => ?_
    have hlt : x.2 < h.length := by
      have hle := (List.mem_zipIdx hx).2.1
      omega
    show takes ((h ++ [c]).take x.2) x.1 = takes (h.take x.2) x.1
    rw [List.take_append_of_le_length (Nat.le_of_lt hlt)]
  · simp

theorem takenFor_snoc (c : BrokerCall) (name : String) (p : Nat) :
    takenFor (h ++ [c]) name p = h.takenFor name p
      ++ (h.takes c).filter fun r => decide (r.topic = name) && decide (r.partition.toNat = p) := by
  rw [takenFor, taken_snoc, List.filter_append]
  rfl

/-- A call that takes nothing leaves every log as it is. -/
theorem logOf_snoc_of_nil {c : BrokerCall} (hc : h.takes c = []) (name : String) (p : Nat) :
    logOf (h ++ [c]) name p = h.logOf name p := by
  rw [logOf, takenFor_snoc, hc, List.filter_nil, List.append_nil]
  rfl

/-- A record that is taken is the next of its partition. -/
theorem logOf_snoc_send {r : Record} (hr : h.admits r = true) (name : String) (p : Nat) :
    logOf (h ++ [.send r]) name p = h.logOf name p
      ++ if r.topic = name ∧ r.partition.toNat = p then
        [⟨r.partition, (h.logOf name p).length, r.key, r.value⟩] else [] := by
  have htakes : h.takes (.send r) = [r] := if_pos hr
  have hlength : (h.logOf name p).length = (h.takenFor name p).length := List.length_mapIdx
  rw [hlength, logOf, takenFor_snoc, htakes, List.mapIdx_append]
  by_cases hown : r.topic = name ∧ r.partition.toNat = p
  · simp [hown, logOf]
  · rw [not_and_or] at hown
    rcases hown with hne | hne
    · simp [hne, logOf]
    · simp [hne, logOf]

end BrokerHistory

/-! ## Reflection -/

/-- The shelves of a log are in order, and each is of a partition that the topic has. -/
structure TopicLog.Orderly (l : TopicLog) : Prop where
  ascending : Ascending l.shelves
  bounded : ∀ s ∈ l.shelves, s.partition < l.settings.partitions

/-- A record of a partition that the topic has is stored in order. -/
theorem TopicLog.Orderly.store {l : TopicLog} (h : l.Orderly) {r : Record}
    (hr : r.partition < l.settings.partitions) : (l.store r).2.Orderly where
  ascending := h.ascending.append _
  bounded := by
    intro s hs
    rcases partition_of_mem_append hs with hown | ⟨s', hs', heq⟩
    · rw [hown]
      exact hr
    · rw [← heq]
      exact h.bounded s' hs'

/-- A broker holds what its history says. -/
structure MemoryBroker.Reflects (b : MemoryBroker) (h : BrokerHistory) : Prop where
  failing : b.failing = h.isFailing
  settings : ∀ name, b.topic? name = h.settings? name
  orderly : ∀ name log, b.log? name = some log → log.Orderly
  logs : ∀ name p, b.recordsOf name p = h.logOf name p.toNat

namespace MemoryBroker

variable {b : MemoryBroker} {h : BrokerHistory}

theorem reflects_empty : Reflects {} [] where
  failing := rfl
  settings := fun _ => rfl
  orderly := fun name log hlog => absurd hlog (by simp [log?])
  logs := fun _ _ => rfl

/-- A call that changes nothing here and takes nothing. -/
theorem Reflects.skip (hb : b.Reflects h) {c : BrokerCall} (htakes : h.takes c = [])
    (hfailing : b.failing = BrokerHistory.isFailing (h ++ [c]))
    (hsettings : ∀ name, h.settings? name = BrokerHistory.settings? (h ++ [c]) name) :
    b.Reflects (h ++ [c]) where
  failing := hfailing
  settings := fun name => (hb.settings name).trans (hsettings name)
  orderly := hb.orderly
  logs := by
    intro name p
    rw [h.logOf_snoc_of_nil htakes]
    exact hb.logs name p

/-- A topic is known if it was asked for. -/
theorem Reflects.log?_eq_none (hb : b.Reflects h) {name : String} :
    b.log? name = none ↔ h.settings? name = none := by
  rw [← hb.settings name, topic?, Option.map_eq_none_iff]

/-- Asking for a topic that is known. -/
theorem Reflects.ensure_again (hb : b.Reflects h) {t : Topic} {log : TopicLog}
    (hlog : b.log? t.name = some log) : (b.ensure t).Reflects (h ++ [.ensure t]) := by
  have hsame : b.ensure t = b := by simp [MemoryBroker.ensure, hlog]
  have hset : h.settings? t.name = some log.settings := by
    rw [← hb.settings t.name, topic?, hlog]
    rfl
  rw [hsame]
  refine hb.skip rfl (hb.failing.trans (h.isFailing_snoc (.ensure t)).symm) fun name => ?_
  by_cases hname : t.name = name
  · subst hname
    rw [h.settings?_snoc_of_some hset, hset]
  · rw [h.settings?_snoc]
    simp [BrokerHistory.settings?, hname]

/-- Asking for a topic for the first time. -/
theorem Reflects.ensure_new (hb : b.Reflects h) {t : Topic} (hlog : b.log? t.name = none) :
    (b.ensure t).Reflects (h ++ [.ensure t]) := by
  have hset : h.settings? t.name = none := hb.log?_eq_none.1 hlog
  have hown : (b.ensure t).log? t.name = some { settings := t } := by
    rw [log?_ensure, hlog]
    rfl
  refine ⟨?_, ?_, ?_, ?_⟩
  · rw [h.isFailing_snoc]
    have hsame : (b.ensure t).failing = b.failing := by simp [MemoryBroker.ensure, hlog]
    exact hsame.trans hb.failing
  · intro name
    rw [h.settings?_snoc]
    by_cases hname : name = t.name
    · subst hname
      rw [topic?, hown, hset]
      simp [BrokerHistory.settings?]
    · rw [topic?, b.log?_ensure_of_ne hname]
      have hold : (b.log? name).map (·.settings) = h.settings? name := hb.settings name
      rw [hold]
      simp [BrokerHistory.settings?, Ne.symm hname]
  · intro name log hname
    by_cases heq : name = t.name
    · subst heq
      obtain rfl : { settings := t } = log := Option.some.inj (hown.symm.trans hname)
      exact ⟨List.Pairwise.nil, fun s hs => absurd hs List.not_mem_nil⟩
    · rw [b.log?_ensure_of_ne heq] at hname
      exact hb.orderly name log hname
  · intro name p
    rw [h.logOf_snoc_of_nil rfl, ← hb.logs name p]
    by_cases heq : name = t.name
    · subst heq
      exact b.recordsOf_ensure t p
    · rw [recordsOf, recordsOf, b.log?_ensure_of_ne heq]

/-- Asking for a topic. -/
theorem Reflects.ensure (hb : b.Reflects h) (t : Topic) : (b.ensure t).Reflects (h ++ [.ensure t]) := by
  cases hlog : b.log? t.name with
  | some log => exact hb.ensure_again hlog
  | none => exact hb.ensure_new hlog

/-- A send is answered as the history says. -/
theorem Reflects.answer (hb : b.Reflects h) (r : Record) : (b.send r).1 = h.answer r := by
  rw [MemoryBroker.send, BrokerHistory.answer, ← hb.failing, ← hb.settings r.topic, topic?]
  split
  · rfl
  · cases hlog : b.log? r.topic with
    | none => rfl
    | some log =>
      have hoffset : (log.recordsOf r.partition).length
          = (h.takenFor r.topic r.partition.toNat).length := by
        have hlogs : log.recordsOf r.partition = h.logOf r.topic r.partition.toNat := by
          rw [← hb.logs r.topic r.partition, recordsOf, hlog]
        rw [hlogs]
        exact List.length_mapIdx
      simp only [Option.map_some]
      split
      · rfl
      · rw [← hoffset]
        rfl

/-- A record is taken if the history admits it, and refused otherwise. -/
theorem Reflects.send_cases (hb : b.Reflects h) (r : Record) :
    (h.admits r = true ∧ b.failing = false ∧ ∃ log, b.log? r.topic = some log
      ∧ r.partition < log.settings.partitions)
    ∨ (h.admits r = false ∧ (b.send r).2 = b) := by
  unfold BrokerHistory.admits
  rw [← hb.failing, ← hb.settings r.topic, topic?]
  cases hfailing : b.failing with
  | true => exact Or.inr ⟨rfl, by simp [MemoryBroker.send, hfailing]⟩
  | false =>
    cases hlog : b.log? r.topic with
    | none => exact Or.inr ⟨rfl, by simp [MemoryBroker.send, hfailing, hlog]⟩
    | some log =>
      by_cases hlt : r.partition < log.settings.partitions
      · exact Or.inl ⟨by simp [hlt], rfl, log, rfl, hlt⟩
      · refine Or.inr ⟨by simp [hlt], ?_⟩
        have hle : log.settings.partitions ≤ r.partition := UInt32.not_lt.1 hlt
        simp [MemoryBroker.send, hfailing, hlog, hle]

/-- A record that is taken goes to the end of its partition. -/
theorem Reflects.stored (hb : b.Reflects h) {r : Record} {log : TopicLog} (hadmits : h.admits r = true)
    (hlog : b.log? r.topic = some log) (hlt : r.partition < log.settings.partitions) :
    (b.stored r log).Reflects (h ++ [.send r]) := by
  have horderly := hb.orderly r.topic log hlog
  refine ⟨?_, ?_, ?_, ?_⟩
  · rw [h.isFailing_snoc]
    exact hb.failing
  · intro name
    rw [h.settings?_snoc_send, ← hb.settings name, topic?, topic?, log?_stored hlog]
    split
    · rename_i heq
      rw [heq, hlog]
      rfl
    · rfl
  · intro name log' hlog'
    rw [log?_stored hlog] at hlog'
    split at hlog'
    · obtain rfl := Option.some.inj hlog'
      exact horderly.store hlt
    · exact hb.orderly name log' hlog'
  · intro name p
    have hold := hb.logs name p
    rw [h.logOf_snoc_send hadmits, ← hold]
    by_cases heq : r.topic = name
    · subst heq
      rw [recordsOf, log?_stored hlog, if_pos rfl, recordsOf, hlog]
      show (log.store r).2.recordsOf p = _
      rw [TopicLog.recordsOf_store horderly.ascending]
      congr 1
      -- the history tells partitions apart by their numbers
      by_cases hp : r.partition = p
      · subst hp
        simp [TopicLog.next]
      · have hne : r.partition.toNat ≠ p.toNat := fun hsame => hp (UInt32.toNat_inj.1 hsame)
        simp [hp, hne]
    · have hne : ¬ (r.topic = name ∧ r.partition.toNat = p.toNat) := fun hboth => heq hboth.1
      rw [recordsOf, log?_stored hlog, if_neg (Ne.symm heq), if_neg hne, List.append_nil]
      rfl

/-- A send. -/
theorem Reflects.send (hb : b.Reflects h) (r : Record) : (b.send r).2.Reflects (h ++ [.send r]) := by
  rcases hb.send_cases r with ⟨hadmits, hfailing, log, hlog, hlt⟩ | ⟨hadmits, hsame⟩
  · rw [send_of_fits hfailing hlog hlt]
    exact hb.stored hadmits hlog hlt
  · rw [hsame]
    refine hb.skip ?_ (hb.failing.trans (h.isFailing_snoc (.send r)).symm) fun name =>
      (h.settings?_snoc_send r name).symm
    show (if h.admits r = true then [r] else []) = []
    rw [hadmits]
    rfl

/-- **Step**: every call keeps the reflection. -/
theorem Reflects.perform (hb : b.Reflects h) (c : BrokerCall) : (b.perform c).Reflects (h ++ [c]) := by
  cases c with
  | ensure t => exact hb.ensure t
  | send r => exact hb.send r
  | setFailing on =>
    refine ⟨(h.isFailing_snoc (.setFailing on)).symm, fun name => ?_, hb.orderly, fun name p => ?_⟩
    · rw [h.settings?_snoc]
      have hnone : BrokerHistory.settings? [.setFailing on] name = none := rfl
      rw [hnone, Option.or_none]
      exact hb.settings name
    · rw [h.logOf_snoc_of_nil rfl]
      exact hb.logs name p

/-- **Run**: every run from an empty broker reflects its history. -/
theorem reflects_run (hb : b.Reflects h) (later : BrokerHistory) :
    (b.run later).Reflects (h ++ later) := by
  induction later generalizing b h with
  | nil => rwa [List.append_nil]
  | cons c rest ih =>
    have hnext := ih (hb.perform c)
    rwa [List.append_assoc] at hnext

/-! ## Refinement -/

/-- What a broker shows, and what it does next, is what a history says. -/
structure Describes (h : BrokerHistory) (b : MemoryBroker) : Prop where
  topic : ∀ name, b.topic? name = h.settings? name
  records : ∀ name, b.records name = h.records name
  answer : ∀ r, (b.send r).1 = h.answer r
  /-- A send is accepted if sends are not failing and the topic is there and has the partition. -/
  accepted : ∀ r, (∃ receipt, (b.send r).1 = .ok receipt) ↔
    h.isFailing = false ∧ ∃ t, h.settings? r.topic = some t ∧ r.partition < t.partitions
  /-- A refused send changes nothing. -/
  refused : ∀ r e, (b.send r).1 = .error e → (b.send r).2 = b
  /-- Asking again for a topic changes nothing, with whatever settings. -/
  asked : ∀ t, (h.settings? t.name).isSome → b.ensure t = b

/-- A broker describes what it reflects. -/
theorem Reflects.describes (hb : b.Reflects h) : Describes h b where
  topic := hb.settings
  records := by
    intro name
    have hsettings := hb.settings name
    rw [topic?] at hsettings
    rw [MemoryBroker.records, BrokerHistory.records, ← hsettings]
    cases hlog : b.log? name with
    | none => rfl
    | some log =>
      have horderly := hb.orderly name log hlog
      have hsize : log.settings.partitions.toNat < UInt32.size := log.settings.partitions.toNat_lt
      have hlogs : ∀ p ∈ List.range' 0 log.settings.partitions.toNat,
          log.recordsOf (UInt32.ofNat p) = h.logOf name p := by
        intro p hp
        have hp' := List.mem_range'_1.1 hp
        have hnumber : (UInt32.ofNat p).toNat = p := UInt32.toNat_ofNat_of_lt' (by omega)
        have hown := hb.logs name (UInt32.ofNat p)
        rwa [recordsOf, hlog, hnumber] at hown
      show log.shelves.flatMap (·.records)
        = (List.range log.settings.partitions.toNat).flatMap (h.logOf name)
      rw [List.range_eq_range', ← List.flatMap_congr hlogs]
      refine TopicLog.flatMap_records horderly.ascending (by omega) fun s hs => ?_
      have hlt := UInt32.lt_iff_toNat_lt.1 (horderly.bounded s hs)
      omega
  answer := hb.answer
  accepted := by
    intro r
    rw [hb.answer r, BrokerHistory.answer]
    cases hfailing : h.isFailing with
    | true => simp
    | false =>
      cases hset : h.settings? r.topic with
      | none => simp
      | some t =>
        by_cases hlt : r.partition < t.partitions
        · simp [hlt, UInt32.not_le.2 hlt]
        · simp [hlt, UInt32.not_lt.1 hlt]
  refused := by
    intro r e hrefused
    rcases hb.send_cases r with ⟨-, hfailing, log, hlog, hlt⟩ | ⟨-, hsame⟩
    · rw [send_of_fits hfailing hlog hlt] at hrefused
      exact absurd hrefused (by simp)
    · exact hsame
  asked := by
    intro t hasked
    cases hlog : b.log? t.name with
    | some log => simp [MemoryBroker.ensure, hlog]
    | none =>
      rw [hb.log?_eq_none.1 hlog] at hasked
      exact absurd hasked (by decide)

/-- **Refinement**: whatever is called, and in whatever order, an empty broker comes to hold what its history
says, and answers the next send so. -/
theorem describes_run (h : BrokerHistory) : Describes h (run {} h) :=
  (reflects_run reflects_empty h).describes

/-- Two topics, one asked for again with more partitions, sends that are refused on each of the three
grounds, and logs that grow in turn. -/
example : let h : BrokerHistory := [.ensure ⟨"a", 2, 1⟩, .send ⟨"a", 1, [1], [10]⟩, .ensure ⟨"a", 4, 1⟩,
      .send ⟨"a", 3, [2], []⟩, .send ⟨"b", 0, [2], []⟩, .setFailing true, .send ⟨"a", 0, [3], []⟩,
      .setFailing false, .send ⟨"a", 0, [4], [40]⟩, .send ⟨"a", 1, [5], [50]⟩]
    h.records "a" = [⟨0, 0, [4], [40]⟩, ⟨1, 0, [1], [10]⟩, ⟨1, 1, [5], [50]⟩] := by
  decide

end MemoryBroker

end FieldBridge
