/-
  Topics and the partition of a key.

  All messages go to one topic, which is split into partitions.  A key always goes to the same
  partition: the one numbered by the 64-bit FNV-1a hash of its bytes, modulo the partition count.
-/

import FieldBridge.Text.Utf8

namespace FieldBridge

/-- The settings of a topic. -/
structure Topic where
  name : String
  partitions : UInt32
  replication : UInt16
  deriving DecidableEq, Repr, Inhabited

namespace Topic

/-- Settings with both counts raised to at least 1. -/
def create (name : String) (partitions : UInt32) (replication : UInt16) : Topic :=
  ⟨name, if partitions = 0 then 1 else partitions, if replication = 0 then 1 else replication⟩

/-- The settings used when none are given. -/
def default : Topic := create "opcua-events" 1 1

/-- The 64-bit FNV-1a hash. -/
def fnv1a (bytes : Bytes) : UInt64 :=
  bytes.foldl (fun hash byte => (hash ^^^ byte.toUInt64) * 0x100000001b3) 0xcbf29ce484222325

/-- The partition of a key. -/
def partitionOf (t : Topic) (key : String) : UInt32 :=
  let count := if t.partitions = 0 then 1 else t.partitions.toNat
  ((fnv1a (Utf8.ofString key)).toNat % count).toUInt32

end Topic

end FieldBridge
