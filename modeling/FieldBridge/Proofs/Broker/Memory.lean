/-
  The in-process broker as a log.

  1. **Shelves** — as long as the shelves of a topic ascend, storing a record puts it last in its
     partition and leaves every other partition as it is (`recordsOf_store`).

  2. **Topics** — asking for a topic and storing a record touch the log of that topic only
     (`log?_ensure_of_ne`, `log?_stored`).

  3. **Accepting** — a broker that accepts sends takes every record whose topic exists and has its
     partition (`Keeps.send`), and the partition of a key is one of its topic (`partitionOf_lt`).
-/

import Mathlib.Data.List.Basic
import FieldBridge.Broker.Gate

namespace FieldBridge

/-! ## Shelves -/

namespace TopicLog

variable {t : Topic} {shelves : List Shelf} {p : UInt32}

/-- The shelves ascend, so no partition has two. -/
def Ascending (shelves : List Shelf) : Prop := shelves.Pairwise fun s s' => s.partition < s'.partition

theorem recordsOf_cons (s : Shelf) : (⟨t, s :: shelves⟩ : TopicLog).recordsOf p
    = if s.partition = p then s.records else (⟨t, shelves⟩ : TopicLog).recordsOf p := by
  unfold recordsOf
  by_cases h : s.partition = p
  · simp [h]
  · simp [h]

/-- A partition without a shelf has no records. -/
theorem recordsOf_eq_nil (h : ∀ s ∈ shelves, s.partition ≠ p) :
    (⟨t, shelves⟩ : TopicLog).recordsOf p = [] := by
  induction shelves with
  | nil => rfl
  | cons s rest ih =>
    rw [recordsOf_cons, if_neg (h s List.mem_cons_self)]
    exact ih fun s' hs' => h s' (List.mem_cons_of_mem s hs')

/-- A shelf after a record was put in was there before or is the record's own. -/
theorem partition_of_mem_append {r : StoredRecord} {s : Shelf} (h : s ∈ append r shelves) :
    s.partition = r.partition ∨ ∃ s' ∈ shelves, s'.partition = s.partition := by
  induction shelves with
  | nil =>
    obtain rfl := List.mem_singleton.1 h
    exact Or.inl rfl
  | cons first rest ih =>
    rw [append] at h
    split at h
    · rcases List.mem_cons.1 h with rfl | hrest
      · exact Or.inr ⟨first, List.mem_cons_self, rfl⟩
      · exact Or.inr ⟨s, List.mem_cons_of_mem first hrest, rfl⟩
    · split at h
      · rcases List.mem_cons.1 h with rfl | hold
        · exact Or.inl rfl
        · exact Or.inr ⟨s, hold, rfl⟩
      · rcases List.mem_cons.1 h with rfl | hrest
        · exact Or.inr ⟨s, List.mem_cons_self, rfl⟩
        · rcases ih hrest with hown | ⟨s', hs', heq⟩
          · exact Or.inl hown
          · exact Or.inr ⟨s', List.mem_cons_of_mem first hs', heq⟩

/-- Putting a record in keeps the order of the shelves. -/
theorem Ascending.append (h : Ascending shelves) (r : StoredRecord) :
    Ascending (TopicLog.append r shelves) := by
  induction shelves with
  | nil => exact List.pairwise_singleton _ _
  | cons first rest ih =>
    obtain ⟨hfirst, hrest⟩ := List.pairwise_cons.1 h
    rw [TopicLog.append]
    split
    · exact List.pairwise_cons.2 ⟨hfirst, hrest⟩
    · split
      · rename_i hlt
        refine List.pairwise_cons.2 ⟨fun s hs => ?_, h⟩
        rcases List.mem_cons.1 hs with rfl | hs
        · exact hlt
        · exact UInt32.lt_trans hlt (hfirst s hs)
      · rename_i hne hge
        refine List.pairwise_cons.2 ⟨fun s hs => ?_, ih hrest⟩
        rcases partition_of_mem_append hs with hown | ⟨s', hs', heq⟩
        · have hle : first.partition ≤ r.partition := UInt32.not_lt.1 hge
          rw [hown]
          exact UInt32.lt_of_le_of_ne hle fun heq => hne heq.symm
        · rw [← heq]
          exact hfirst s' hs'

/-- A record put in is the last of its partition; the other partitions stay as they are. -/
theorem recordsOf_append (h : Ascending shelves) (r : StoredRecord) :
    (⟨t, append r shelves⟩ : TopicLog).recordsOf p
      = (⟨t, shelves⟩ : TopicLog).recordsOf p ++ if r.partition = p then [r] else [] := by
  induction shelves with
  | nil =>
    rw [append, recordsOf_cons]
    rfl
  | cons first rest ih =>
    obtain ⟨hfirst, hrest⟩ := List.pairwise_cons.1 h
    rw [append]
    split
    · rename_i heq
      rw [recordsOf_cons, recordsOf_cons, heq]
      by_cases hp : first.partition = p
      · simp [hp]
      · simp [hp]
    · split
      · rename_i hlt
        rw [recordsOf_cons]
        by_cases hp : r.partition = p
        · -- the shelves behind it are of later partitions
          have hnone : (⟨t, first :: rest⟩ : TopicLog).recordsOf p = [] := by
            refine recordsOf_eq_nil fun s hs => ?_
            rw [← hp]
            rcases List.mem_cons.1 hs with rfl | hs
            · exact (UInt32.ne_of_lt hlt).symm
            · exact (UInt32.ne_of_lt (UInt32.lt_trans hlt (hfirst s hs))).symm
          simp [hp, hnone]
        · simp [hp]
      · rename_i hne hge
        rw [recordsOf_cons, recordsOf_cons, ih hrest]
        by_cases hp : first.partition = p
        · have hother : r.partition ≠ p := fun heq => hne (heq.trans hp.symm)
          simp [hp, hother]
        · simp [hp]

/-- Shelves that ascend list their records partition by partition, each partition once. -/
theorem flatMap_records (h : Ascending shelves) {first count : Nat} (hsize : first + count ≤ UInt32.size)
    (hrange : ∀ s ∈ shelves, first ≤ s.partition.toNat ∧ s.partition.toNat < first + count) :
    shelves.flatMap (·.records) = (List.range' first count).flatMap
      fun p => (⟨t, shelves⟩ : TopicLog).recordsOf (UInt32.ofNat p) := by
  induction count generalizing first shelves with
  | zero =>
    have hnil : shelves = [] := by
      refine List.eq_nil_iff_forall_not_mem.2 fun s hs => ?_
      have hs' := hrange s hs
      omega
    rw [hnil]
    rfl
  | succ count ih =>
    rw [List.range'_succ, List.flatMap_cons]
    cases shelves with
    | nil => exact ih h (by omega) fun s hs => absurd hs List.not_mem_nil
    | cons s rest =>
      obtain ⟨hlater, hrest⟩ := List.pairwise_cons.1 h
      have hbounds := hrange s List.mem_cons_self
      have hbehind : ∀ s' ∈ rest, s.partition.toNat < s'.partition.toNat
          ∧ s'.partition.toNat < first + (count + 1) := fun s' hs' =>
        ⟨UInt32.lt_iff_toNat_lt.1 (hlater s' hs'), (hrange s' (List.mem_cons_of_mem s hs')).2⟩
      have hnumber : (UInt32.ofNat first).toNat = first := UInt32.toNat_ofNat_of_lt' (by omega)
      by_cases hfirst : s.partition = UInt32.ofNat first
      · -- behind the first shelf its partition does not come again
        have hothers : ∀ p ∈ List.range' (first + 1) count,
            (⟨t, s :: rest⟩ : TopicLog).recordsOf (UInt32.ofNat p)
              = (⟨t, rest⟩ : TopicLog).recordsOf (UInt32.ofNat p) := by
          intro p hp
          have hp' := List.mem_range'_1.1 hp
          have hnumber' : (UInt32.ofNat p).toNat = p := UInt32.toNat_ofNat_of_lt' (by omega)
          have hne : s.partition ≠ UInt32.ofNat p := by
            intro heq
            have hsame := congrArg UInt32.toNat (hfirst.symm.trans heq)
            omega
          rw [recordsOf_cons, if_neg hne]
        rw [recordsOf_cons, if_pos hfirst, List.flatMap_cons, List.flatMap_congr hothers]
        congr 1
        refine ih hrest (by omega) fun s' hs' => ?_
        have hs'' := hbehind s' hs'
        omega
      · -- no shelf is of the first partition
        have hgap : first < s.partition.toNat := by
          have hne : first ≠ s.partition.toNat := by
            intro heq
            exact hfirst (UInt32.toNat_inj.1 (hnumber.trans heq).symm)
          omega
        have hall : ∀ s' ∈ s :: rest, first + 1 ≤ s'.partition.toNat
            ∧ s'.partition.toNat < first + 1 + count := by
          intro s' hs'
          rcases List.mem_cons.1 hs' with rfl | hs'
          · omega
          · have hs'' := hbehind s' hs'
            omega
        have hnone : (⟨t, s :: rest⟩ : TopicLog).recordsOf (UInt32.ofNat first) = [] := by
          refine recordsOf_eq_nil fun s' hs' heq => ?_
          have hlt := (hall s' hs').1
          rw [heq] at hlt
          omega
        rw [hnone, List.nil_append]
        exact ih h (by omega) hall

/-- The record under which a record of a partition is stored next. -/
def next (l : TopicLog) (r : Record) : StoredRecord :=
  ⟨r.partition, (l.recordsOf r.partition).length, r.key, r.value⟩

/-- **Storing** puts a record last in its partition. -/
theorem recordsOf_store {l : TopicLog} (h : Ascending l.shelves) (r : Record) :
    (l.store r).2.recordsOf p = l.recordsOf p ++ if r.partition = p then [l.next r] else [] :=
  recordsOf_append h (l.next r)

end TopicLog

/-! ## Topics -/

namespace MemoryBroker

variable {b : MemoryBroker} {name : String} {log : TopicLog}

/-- A log replaced is found under its name. -/
theorem lookup_replace_self {topics : List (String × TopicLog)} (h : topics.lookup name = some log)
    (log' : TopicLog) : (replace name log' topics).lookup name = some log' := by
  induction topics with
  | nil => exact absurd h (by simp)
  | cons first rest ih =>
    obtain ⟨own, l⟩ := first
    rw [replace]
    by_cases hown : own = name
    · simp [hown]
    · have hne : (name == own) = false := beq_eq_false_iff_ne.2 (Ne.symm hown)
      rw [if_neg hown, List.lookup_cons, hne]
      rw [List.lookup_cons, hne] at h
      exact ih h

/-- A topic that is asked for exists, and keeps its log if it had one. -/
theorem log?_ensure (b : MemoryBroker) (t : Topic) :
    (b.ensure t).log? t.name = some ((b.log? t.name).getD { settings := t }) := by
  unfold ensure
  cases h : b.log? t.name with
  | some log => simp [h]
  | none =>
    have hnone : b.topics.lookup t.name = none := h
    simp [log?, List.lookup_append, hnone]

/-- Every other topic is as before. -/
theorem log?_ensure_of_ne (b : MemoryBroker) {t : Topic} (h : name ≠ t.name) :
    (b.ensure t).log? name = b.log? name := by
  unfold ensure
  split
  · rfl
  · have hne : (name == t.name) = false := beq_eq_false_iff_ne.2 h
    show (b.topics ++ [(t.name, ({ settings := t } : TopicLog))]).lookup name = b.topics.lookup name
    rw [List.lookup_append, List.lookup_cons, hne]
    cases b.topics.lookup name <;> rfl

/-- A log replaced leaves the others. -/
theorem lookup_replace_of_ne {topics : List (String × TopicLog)} {other : String}
    (h : other ≠ name) (log' : TopicLog) :
    (replace name log' topics).lookup other = topics.lookup other := by
  induction topics with
  | nil => rfl
  | cons first rest ih =>
    obtain ⟨own, l⟩ := first
    rw [replace]
    by_cases hown : own = name
    · have hne : (other == own) = false := beq_eq_false_iff_ne.2 (hown ▸ h)
      rw [if_pos hown, List.lookup_cons, List.lookup_cons, hne]
    · rw [if_neg hown, List.lookup_cons, List.lookup_cons, ih]

/-- A broker that has stored a record of a topic. -/
def stored (b : MemoryBroker) (r : Record) (log : TopicLog) : MemoryBroker :=
  { b with topics := replace r.topic (log.store r).2 b.topics }

/-- A record that nothing stands against is stored. -/
theorem send_of_fits {r : Record} (hfailing : b.failing = false) (hlog : b.log? r.topic = some log)
    (hpartition : r.partition < log.settings.partitions) :
    b.send r = (.ok (r.receipt (log.recordsOf r.partition).length), b.stored r log) := by
  have hle : ¬ log.settings.partitions ≤ r.partition := UInt32.not_le.2 hpartition
  simp [MemoryBroker.send, hfailing, hlog, hle, stored, TopicLog.store]

/-- Storing a record touches the log of its topic only. -/
theorem log?_stored {r : Record} (hlog : b.log? r.topic = some log) (other : String) :
    (b.stored r log).log? other = if other = r.topic then some (log.store r).2 else b.log? other := by
  by_cases h : other = r.topic
  · rw [if_pos h, h]
    exact lookup_replace_self hlog _
  · rw [if_neg h]
    exact lookup_replace_of_ne h _

/-- The records of a partition of a topic. -/
def recordsOf (b : MemoryBroker) (name : String) (p : UInt32) : List StoredRecord :=
  match b.log? name with
  | some log => log.recordsOf p
  | none => []

/-- A topic is there with its settings and orderly shelves. -/
def Keeps (b : MemoryBroker) (t : Topic) : Prop :=
  ∃ log, b.log? t.name = some log ∧ log.settings = t ∧ TopicLog.Ascending log.shelves

/-- Asking for a topic changes no record. -/
theorem recordsOf_ensure (b : MemoryBroker) (t : Topic) (p : UInt32) :
    (b.ensure t).recordsOf t.name p = b.recordsOf t.name p := by
  unfold recordsOf
  rw [log?_ensure]
  cases b.log? t.name with
  | some log => rfl
  | none => rfl

/-- Asking for a topic changes no record of any topic. -/
theorem records_ensure (b : MemoryBroker) (t : Topic) (name : String) :
    (b.ensure t).records name = b.records name := by
  unfold records
  by_cases hname : name = t.name
  · rw [hname, log?_ensure]
    cases b.log? t.name with
    | some log => rfl
    | none => rfl
  · rw [b.log?_ensure_of_ne hname]

/-- A topic that is asked for is there, if it was not there with other settings. -/
theorem keeps_ensure {t : Topic} (h : b.log? t.name = none ∨ b.Keeps t) : (b.ensure t).Keeps t := by
  rcases h with hnone | ⟨log, hlog, hsettings, hascending⟩
  · refine ⟨{ settings := t }, ?_, rfl, List.Pairwise.nil⟩
    rw [log?_ensure, hnone]
    rfl
  · refine ⟨log, ?_, hsettings, hascending⟩
    rw [log?_ensure, hlog]
    rfl

/-! ## Accepting -/

/-- **Accepting**: a broker that accepts sends puts a record of a topic that is there last in its
partition. -/
theorem Keeps.send {t : Topic} {r : Record} (h : b.Keeps t) (hfailing : b.failing = false)
    (htopic : r.topic = t.name) (hpartition : r.partition < t.partitions) :
    ∃ stored : StoredRecord, stored.partition = r.partition ∧ stored.key = r.key
      ∧ stored.value = r.value ∧ (b.send r).2.failing = false ∧ (b.send r).2.Keeps t
      ∧ ∀ p, (b.send r).2.recordsOf t.name p
        = b.recordsOf t.name p ++ if r.partition = p then [stored] else [] := by
  obtain ⟨log, hlog, hsettings, hascending⟩ := h
  rw [← htopic] at hlog ⊢
  have hsend : (b.send r).2 = b.stored r log := by
    rw [send_of_fits hfailing hlog (hsettings ▸ hpartition)]
  have hfound : (b.send r).2.log? r.topic = some (log.store r).2 := by
    rw [hsend, log?_stored hlog, if_pos rfl]
  refine ⟨log.next r, rfl, rfl, rfl, ?_, ?_, fun p => ?_⟩
  · rw [hsend]
    exact hfailing
  · exact ⟨(log.store r).2, htopic ▸ hfound, hsettings, hascending.append _⟩
  · rw [recordsOf, recordsOf, hfound, hlog]
    exact TopicLog.recordsOf_store hascending r

end MemoryBroker

/-! ## Partitions -/

/-- A topic has at least one partition. -/
theorem Topic.partitions_create_ne (name : String) (partitions : UInt32) (replication : UInt16) :
    (Topic.create name partitions replication).partitions ≠ 0 := by
  unfold Topic.create
  by_cases h : partitions = 0
  · simp [h]
  · simp [h]

/-- The partition of a key is one of the topic's. -/
theorem Topic.partitionOf_lt {t : Topic} (h : t.partitions ≠ 0) (key : String) :
    t.partitionOf key < t.partitions := by
  have hcount : 0 < t.partitions.toNat := by
    rcases Nat.eq_zero_or_pos t.partitions.toNat with hzero | hpos
    · exact absurd (UInt32.toNat_inj.1 (hzero.trans rfl)) h
    · exact hpos
  have hmod := Nat.mod_lt (fnv1a (Utf8.ofString key)).toNat hcount
  have hsize := t.partitions.toNat_lt
  rw [UInt32.lt_iff_toNat_lt]
  simp only [partitionOf, if_neg h]
  rw [UInt32.toNat_ofNat_of_lt' (Nat.lt_trans hmod hsize)]
  exact hmod

end FieldBridge
