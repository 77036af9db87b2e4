/-
  The in-process broker.

  Keeps every record in memory, partitioned like a real log: each topic has the settings with which it
  was first created, and each of its partitions a sequence of records, numbered from 0.

  Only partitions that hold a record are stored, in ascending order.  A send is refused when sends are
  failing, when the topic does not exist, or when the partition is out of range, in that order.
-/

import FieldBridge.Broker.Record

namespace FieldBridge

/-- A stored record. -/
structure StoredRecord where
  partition : UInt32
  offset : Nat
  key : Bytes
  value : Bytes
  deriving DecidableEq, Repr, Inhabited

/-- The records of one partition, oldest first. -/
structure Shelf where
  partition : UInt32
  records : List StoredRecord
  deriving Repr

/-- A topic and its records. -/
structure TopicLog where
  settings : Topic
  /-- In ascending order of the partition. -/
  shelves : List Shelf := []
  deriving Repr

namespace TopicLog

/-- The records of a partition. -/
def recordsOf (l : TopicLog) (partition : UInt32) : List StoredRecord :=
  match l.shelves.find? fun s => s.partition = partition with
  | some s => s.records
  | none => []

/-- Put a record behind those of its partition. -/
def append (r : StoredRecord) : List Shelf → List Shelf
  | [] => [⟨r.partition, [r]⟩]
  | s :: rest =>
    if r.partition = s.partition then ⟨s.partition, s.records ++ [r]⟩ :: rest
    else if r.partition < s.partition then ⟨r.partition, [r]⟩ :: s :: rest
    else s :: append r rest

/-- Every record, by partition and then by offset. -/
def records (l : TopicLog) : List StoredRecord := l.shelves.flatMap (·.records)

/-- Store a record; gives its offset. -/
def store (l : TopicLog) (r : Record) : Nat × TopicLog :=
  let offset := (l.recordsOf r.partition).length
  (offset, { l with shelves := append ⟨r.partition, offset, r.key, r.value⟩ l.shelves })

end TopicLog

/-- A broker that keeps records in memory. -/
structure MemoryBroker where
  /-- By name, each name once. -/
  topics : List (String × TopicLog) := []
  failing : Bool := false
  deriving Repr

namespace MemoryBroker

/-- The log of a topic. -/
def log? (b : MemoryBroker) (name : String) : Option TopicLog := b.topics.lookup name

/-- Create a topic unless it exists. -/
def ensure (b : MemoryBroker) (t : Topic) : MemoryBroker :=
  match b.log? t.name with
  | some _ => b
  | none => { b with topics := b.topics ++ [(t.name, { settings := t })] }

/-- Refuse every send, or stop doing so. -/
def setFailing (b : MemoryBroker) (on : Bool) : MemoryBroker := { b with failing := on }

/-- Replace the log of a topic. -/
def replace (name : String) (log : TopicLog) : List (String × TopicLog) → List (String × TopicLog)
  | [] => []
  | (n, l) :: rest => if n = name then (n, log) :: rest else (n, l) :: replace name log rest

/-- Take a record. -/
def send (b : MemoryBroker) (r : Record) : Except BrokerError Receipt × MemoryBroker :=
  if b.failing then (.error (.send "broker unavailable"), b)
  else match b.log? r.topic with
    | none => (.error (.unknownTopic r.topic), b)
    | some log =>
      if log.settings.partitions ≤ r.partition then
        (.error (.invalidPartition r.topic r.partition), b)
      else
        let (offset, log) := log.store r
        (.ok (r.receipt offset), { b with topics := replace r.topic log b.topics })

/-- The settings of a topic. -/
def topic? (b : MemoryBroker) (name : String) : Option Topic := (b.log? name).map (·.settings)

/-- The records of a topic, by partition and then by offset. -/
def records (b : MemoryBroker) (name : String) : List StoredRecord :=
  match b.log? name with
  | some l => l.records
  | none => []

end MemoryBroker

end FieldBridge
