/-
  The wire form of messages and keys.

  Both formats hold the same record: `metadata` with `aggregateId`, `traceId` and `timestamp`, and
  `payload` with five texts; a key is the record of `nodeId` alone.

  1. **Writing** — members in declaration order; JSON without blanks, CBOR with definite lengths and
     the shortest heads; the timestamp as text in both.

  2. **Reading** — members in any order, unknown ones ignored, each known one exactly once.  In JSON a
     record may also be the array of its fields, and only blanks may follow; in CBOR whatever follows
     the item is ignored.
-/

import FieldBridge.Cbor.Reader
import FieldBridge.Format
import FieldBridge.Json.Reader
import FieldBridge.Message.Basic

namespace FieldBridge

/-! ## Names of the members -/

def Metadata.names : List String := ["aggregateId", "traceId", "timestamp"]

def Payload.names : List String := ["nodeId", "browseName", "displayName", "description", "value"]

def Message.names : List String := ["metadata", "payload"]

def MessageKey.names : List String := ["nodeId"]

/-- The written form of a message's time. -/
def Metadata.timeText (m : Metadata) : String := String.ofList (m.timestamp.text Instant.zulu)

/-! ## JSON -/

namespace Metadata

def toJson (m : Metadata) : Json :=
  .record [("aggregateId", .ofText m.aggregateId), ("traceId", .ofText m.traceId),
    ("timestamp", .ofText m.timeText)]

def ofJson? (j : Json) : Option Metadata := do
  match ← j.fields? names with
  | [a, t, s] =>
    let a ← a.text?
    let t ← t.text?
    let s ← s.text?
    some ⟨a, t, ← Instant.parse? s.toList⟩
  | _ => none

end Metadata

namespace Payload

def toJson (p : Payload) : Json :=
  .record [("nodeId", .ofText p.nodeId), ("browseName", .ofText p.browseName),
    ("displayName", .ofText p.displayName), ("description", .ofText p.description),
    ("value", .ofText p.value)]

def ofJson? (j : Json) : Option Payload := do
  match ← j.fields? names with
  | [n, b, d, e, v] => some ⟨← n.text?, ← b.text?, ← d.text?, ← e.text?, ← v.text?⟩
  | _ => none

end Payload

namespace MessageKey

def toJson (k : MessageKey) : Json := .record [("nodeId", .ofText k.nodeId)]

def ofJson? (j : Json) : Option MessageKey := do
  match ← j.fields? names with
  | [n] => some ⟨← n.text?⟩
  | _ => none

end MessageKey

namespace Message

def toJson (m : Message) : Json :=
  .record [("metadata", m.metadata.toJson), ("payload", m.payload.toJson)]

def ofJson? (j : Json) : Option Message := do
  match ← j.fields? names with
  | [m, p] => some ⟨← Metadata.ofJson? m, ← Payload.ofJson? p⟩
  | _ => none

end Message

/-! ## CBOR -/

open Cbor (Item)

namespace Metadata

def toCbor (m : Metadata) : Item :=
  .record [("aggregateId", .ofText m.aggregateId), ("traceId", .ofText m.traceId),
    ("timestamp", .ofText m.timeText)]

def ofCbor? (level : Nat) (i : Item) : Option Metadata := do
  match ← i.fields? level names with
  | [a, t, s] =>
    let a ← a.text?
    let t ← t.text?
    let s ← s.shortText?
    some ⟨a, t, ← Instant.parse? s.toList⟩
  | _ => none

end Metadata

namespace Payload

def toCbor (p : Payload) : Item :=
  .record [("nodeId", .ofText p.nodeId), ("browseName", .ofText p.browseName),
    ("displayName", .ofText p.displayName), ("description", .ofText p.description),
    ("value", .ofText p.value)]

def ofCbor? (level : Nat) (i : Item) : Option Payload := do
  match ← i.fields? level names with
  | [n, b, d, e, v] => some ⟨← n.text?, ← b.text?, ← d.text?, ← e.text?, ← v.text?⟩
  | _ => none

end Payload

namespace MessageKey

def toCbor (k : MessageKey) : Item := .record [("nodeId", .ofText k.nodeId)]

def ofCbor? (i : Item) : Option MessageKey := do
  match ← i.fields? 0 names with
  | [n] => some ⟨← n.text?⟩
  | _ => none

end MessageKey

namespace Message

def toCbor (m : Message) : Item :=
  .record [("metadata", m.metadata.toCbor), ("payload", m.payload.toCbor)]

def ofCbor? (i : Item) : Option Message := do
  match ← i.fields? 0 names with
  | [m, p] => some ⟨← Metadata.ofCbor? 1 m, ← Payload.ofCbor? 1 p⟩
  | _ => none

end Message

/-! ## Both formats -/

/-- The bytes of a key. -/
def MessageKey.encode (k : MessageKey) : Format → Bytes
  | .json => k.toJson.write
  | .cbor => k.toCbor.write

/-- The key that the bytes hold; `none` if they hold none. -/
def MessageKey.decode? (s : Bytes) : Format → Option MessageKey
  | .json => (Json.read? s).bind ofJson?
  | .cbor => (Cbor.read? s).bind fun (item, _) => ofCbor? item

/-- The bytes of a message. -/
def Message.encode (m : Message) : Format → Bytes
  | .json => m.toJson.write
  | .cbor => m.toCbor.write

/-- The message that the bytes hold; `none` if they hold none. -/
def Message.decode? (s : Bytes) : Format → Option Message
  | .json => (Json.read? s).bind ofJson?
  | .cbor => (Cbor.read? s).bind fun (item, _) => ofCbor? item

/-! ## Names as JSON values -/

/-- A name of a fixed set: a string, or an object with the name as only key and `null` under it. -/
def Json.name? (j : Json) : Option String :=
  match j with
  | .object [(key, .null)] => Json.unescape? key
  | _ => j.text?

def Attribute.toJson (a : Attribute) : Json := .ofText a.key

def Attribute.ofJson? (j : Json) : Option Attribute := j.name?.bind Attribute.ofKey?

def AttributeId.toJson (a : AttributeId) : Json := .ofText a.key

def AttributeId.ofJson? (j : Json) : Option AttributeId := j.name?.bind AttributeId.ofKey?

def Format.toJson (f : Format) : Json := .ofText f.name

def Format.ofJson? (j : Json) : Option Format := j.name?.bind Format.ofName?

end FieldBridge
