/-
  Records, and the topic level of a key.

  A record is a key and a value bound for a partition of a topic.  Where a broker knows only topics, a
  record goes to `topic/partition/key`, the key as unpadded base 64 in the alphabet that needs no escape:
  such a level holds neither a separator nor a wildcard, so the key can be read back.
-/

import FieldBridge.Broker.Topic
import FieldBridge.Number.Decimal
import FieldBridge.Text.Base64
import FieldBridge.Text.Blank

namespace FieldBridge

/-- An encoded message bound for a partition. -/
structure Record where
  topic : String
  partition : UInt32
  key : Bytes
  value : Bytes
  deriving DecidableEq, Repr, Inhabited

/-- What a broker says about a record it accepted. -/
structure Receipt where
  topic : String
  partition : UInt32
  offset : Nat
  keySize : Nat
  valueSize : Nat
  deriving DecidableEq, Repr, Inhabited

/-- Why a broker refuses something. -/
inductive BrokerError where
  | unknownTopic (topic : String)
  | invalidPartition (topic : String) (partition : UInt32)
  | send (reason : String)
  | flush (reason : String)
  deriving DecidableEq, Repr

/-- The wording of the error. -/
def BrokerError.message : BrokerError → String
  | .unknownTopic topic => "unknown topic: " ++ topic
  | .invalidPartition topic partition =>
    "partition " ++ Decimal.text partition.toNat ++ " out of range for topic " ++ topic
  | .send reason => "send error: " ++ reason
  | .flush reason => "flush error: " ++ reason

namespace Record

/-- The receipt for a record stored at an offset. -/
def receipt (r : Record) (offset : Nat) : Receipt :=
  ⟨r.topic, r.partition, offset, r.key.length, r.value.length⟩

/-- The topic of a partition. -/
def partitionLevel (topic : List Char) (partition : UInt32) : List Char :=
  topic ++ '/' :: Decimal.digits partition.toNat

/-- The topic of a single record, with its key as the last level. -/
def level (r : Record) : List Char :=
  partitionLevel r.topic.toList r.partition ++ '/' :: Base64.urlSafe.encode r.key

/-- What follows the last separator; the whole text if there is none. -/
def lastLevel (s : List Char) : List Char := ((Text.pieces '/' s).getLast?).getD []

/-- The key that the last level of a topic holds; `none` if it holds none. -/
def keyOfLevel? (s : List Char) : Option Bytes := Base64.urlSafe.decode? (lastLevel s)

end Record

end FieldBridge
