/-
  Messages and keys read back.

  In both formats a message is a record of two records of texts, one of which is the text of an instant.
  So reading it back is the round trip of records and texts in the format (`read?_write`, `fields?_record`)
  and that of instants (`Instant.parse?_text`).  The texts come back as they are, and the time as it is
  written (`Message.carried`): the same, unless it has a leap second where none belongs.

  CBOR has a head for every text below 2^64 bytes.  No text in memory is longer, but a string of this
  library may be, so the statements about CBOR ask for it (`Message.Headed`).
-/

import FieldBridge.Message.Codec
import FieldBridge.Proofs.Cbor.RoundTrip
import FieldBridge.Proofs.Json.RoundTrip
import FieldBridge.Proofs.Time.RoundTrip

namespace FieldBridge

/-- A text whose bytes are few enough for a head. -/
def HasHead (t : String) : Prop := (Utf8.ofString t).length < Cbor.headLimit

instance (t : String) : Decidable (HasHead t) := inferInstanceAs (Decidable (_ < _))

/-- The texts of a message that do not come from its time. -/
def Message.texts (m : Message) : List String :=
  [m.metadata.aggregateId, m.metadata.traceId, m.payload.nodeId, m.payload.browseName,
    m.payload.displayName, m.payload.description, m.payload.value]

/-- Every text of the message has a head. -/
def Message.Headed (m : Message) : Prop := ∀ t ∈ m.texts, HasHead t

instance (m : Message) : Decidable m.Headed := inferInstanceAs (Decidable (∀ t ∈ _, _))

/-! ## Times -/

/-- The metadata as they are written: their time is. -/
def Metadata.carried (m : Metadata) : Metadata := { m with timestamp := m.timestamp.carried }

/-- The message as it is written. -/
def Message.carried (m : Message) : Message := { m with metadata := m.metadata.carried }

/-- A leap second in the message's time stands behind second 59. -/
def Message.Regular (m : Message) : Prop := m.metadata.timestamp.time.Regular

instance (m : Message) : Decidable m.Regular := inferInstanceAs (Decidable (TimeOfDay.Regular _))

/-- Just the regular messages are left as they are. -/
theorem Message.carried_eq_self_iff (m : Message) : m.carried = m ↔ m.Regular := by
  rw [Regular, ← Instant.carried_eq_self_iff]
  constructor
  · exact fun h => congrArg (·.metadata.timestamp) h
  · intro h
    show { m with metadata := { m.metadata with timestamp := m.metadata.timestamp.carried } } = m
    rw [h]

theorem Metadata.parse?_timeText (m : Metadata) :
    Instant.parse? m.timeText.toList = some m.timestamp.carried := by
  rw [timeText, String.toList_ofList]
  exact Instant.parse?_text m.timestamp

/-- The text of a time is short enough for any reader. -/
theorem Metadata.length_timeText_le (m : Metadata) : (Utf8.ofString m.timeText).length ≤ 132 := by
  have hbytes := Utf8.length_encode_le (m.timestamp.text Instant.zulu)
  have htext := Instant.length_text_le m.timestamp
  rw [Utf8.ofString, timeText, String.toList_ofList]
  omega

/-! ## JSON -/

open Json (WellFormed wellFormed_ofText wellFormed_record)

def Metadata.fields (m : Metadata) : List (String × Json) :=
  [("aggregateId", .ofText m.aggregateId), ("traceId", .ofText m.traceId),
    ("timestamp", .ofText m.timeText)]

def Payload.fields (p : Payload) : List (String × Json) :=
  [("nodeId", .ofText p.nodeId), ("browseName", .ofText p.browseName),
    ("displayName", .ofText p.displayName), ("description", .ofText p.description),
    ("value", .ofText p.value)]

theorem Metadata.wellFormed_fields (m : Metadata) : ∀ f ∈ m.fields, WellFormed f.2 := by
  simp [fields, wellFormed_ofText]

theorem Payload.wellFormed_fields (p : Payload) : ∀ f ∈ p.fields, WellFormed f.2 := by
  simp [fields, wellFormed_ofText]

theorem Message.wellFormed_toJson (m : Message) : WellFormed m.toJson := by
  have hmetadata : WellFormed m.metadata.toJson := wellFormed_record m.metadata.wellFormed_fields
  have hpayload : WellFormed m.payload.toJson := wellFormed_record m.payload.wellFormed_fields
  exact wellFormed_record (by simp [hmetadata, hpayload])

/-- Metadata are read from the values of their fields, whatever else there is. -/
theorem Metadata.ofJson?_of_fields? {m : Metadata} {v : Json}
    (h : v.fields? names = some (m.fields.map (·.2))) : ofJson? v = some m.carried := by
  simp [ofJson?, h, fields, m.parse?_timeText, carried]

theorem Payload.ofJson?_of_fields? {p : Payload} {v : Json}
    (h : v.fields? names = some (p.fields.map (·.2))) : ofJson? v = some p := by
  simp [ofJson?, h, fields]

theorem Metadata.ofJson?_toJson (m : Metadata) : ofJson? m.toJson = some m.carried :=
  ofJson?_of_fields? (Json.fields?_record names rfl (by decide))

theorem Payload.ofJson?_toJson (p : Payload) : ofJson? p.toJson = some p :=
  ofJson?_of_fields? (Json.fields?_record names rfl (by decide))

theorem Message.ofJson?_toJson (m : Message) : ofJson? m.toJson = some m.carried := by
  have hfields : m.toJson.fields? names = some [m.metadata.toJson, m.payload.toJson] :=
    Json.fields?_record names rfl (by decide)
  simp [ofJson?, hfields, Metadata.ofJson?_toJson, Payload.ofJson?_toJson, carried]

/-- The JSON text of a message says the message as it is written. -/
theorem Message.decode?_json (m : Message) : decode? (m.encode .json) .json = some m.carried := by
  show (Json.read? m.toJson.write).bind ofJson? = some m.carried
  rw [Json.read?_write m.wellFormed_toJson, Option.bind_some, m.ofJson?_toJson]

theorem MessageKey.decode?_json (k : MessageKey) :
    MessageKey.decode? (k.encode .json) .json = some k := by
  have hwell : Json.WellFormed k.toJson := Json.wellFormed_record (by simp [Json.wellFormed_ofText])
  have hfields : k.toJson.fields? names = some [.ofText k.nodeId] :=
    Json.fields?_record names rfl (by decide)
  show (Json.read? k.toJson.write).bind ofJson? = some k
  rw [Json.read?_write hwell, Option.bind_some]
  simp [ofJson?, hfields]

/-! ## CBOR -/

open Cbor.Item (Definite definite_record)

theorem definite_ofText {t : String} (h : HasHead t) : Definite (.ofText t) := ⟨rfl, h⟩

theorem Message.definite_toCbor {m : Message} (h : m.Headed) : Definite m.toCbor := by
  have htime : HasHead m.metadata.timeText :=
    Nat.lt_of_le_of_lt m.metadata.length_timeText_le (by decide)
  simp only [Headed, texts, List.forall_mem_cons] at h
  obtain ⟨haggregate, htrace, hnode, hbrowse, hdisplay, hdescription, hvalue, -⟩ := h
  refine definite_record (by simp [Cbor.headLimit]) ?_
  simp only [List.forall_mem_cons]
  refine ⟨⟨by decide, definite_record (by simp [Cbor.headLimit]) ?_⟩,
    ⟨by decide, definite_record (by simp [Cbor.headLimit]) ?_⟩, by simp⟩
  · simp only [List.forall_mem_cons]
    exact ⟨⟨by decide, definite_ofText haggregate⟩, ⟨by decide, definite_ofText htrace⟩,
      ⟨by decide, definite_ofText htime⟩, by simp⟩
  · simp only [List.forall_mem_cons]
    exact ⟨⟨by decide, definite_ofText hnode⟩, ⟨by decide, definite_ofText hbrowse⟩,
      ⟨by decide, definite_ofText hdisplay⟩, ⟨by decide, definite_ofText hdescription⟩,
      ⟨by decide, definite_ofText hvalue⟩, by simp⟩

theorem Metadata.ofCbor?_toCbor (m : Metadata) (level : Nat) :
    ofCbor? level m.toCbor = some m.carried := by
  have hfields : m.toCbor.fields? level names
      = some [.ofText m.aggregateId, .ofText m.traceId, .ofText m.timeText] :=
    Cbor.Item.fields?_record names rfl (by decide) (by decide) level
  have htime : (Cbor.Item.ofText m.timeText).shortText? = some m.timeText :=
    Cbor.Item.shortText?_ofText (Nat.le_trans m.length_timeText_le (by decide))
  simp [ofCbor?, hfields, htime, m.parse?_timeText, carried]

theorem Payload.ofCbor?_toCbor (p : Payload) (level : Nat) : ofCbor? level p.toCbor = some p := by
  have hfields : p.toCbor.fields? level names
      = some [.ofText p.nodeId, .ofText p.browseName, .ofText p.displayName, .ofText p.description,
        .ofText p.value] :=
    Cbor.Item.fields?_record names rfl (by decide) (by decide) level
  simp [ofCbor?, hfields]

theorem Message.ofCbor?_toCbor (m : Message) : ofCbor? m.toCbor = some m.carried := by
  have hfields : m.toCbor.fields? 0 names = some [m.metadata.toCbor, m.payload.toCbor] :=
    Cbor.Item.fields?_record names rfl (by decide) (by decide) 0
  simp [ofCbor?, hfields, Metadata.ofCbor?_toCbor, Payload.ofCbor?_toCbor, carried]

/-- The CBOR bytes of a message say the message as it is written. -/
theorem Message.decode?_cbor {m : Message} (h : m.Headed) :
    decode? (m.encode .cbor) .cbor = some m.carried := by
  have hread := Cbor.read?_write (Message.definite_toCbor h) []
  rw [List.append_nil] at hread
  show (Cbor.read? m.toCbor.write).bind _ = some m.carried
  rw [hread, Option.bind_some]
  exact m.ofCbor?_toCbor

theorem MessageKey.decode?_cbor {k : MessageKey} (h : HasHead k.nodeId) :
    MessageKey.decode? (k.encode .cbor) .cbor = some k := by
  have hdefinite : Definite k.toCbor :=
    definite_record (by simp [Cbor.headLimit]) fun f hf => by
      obtain rfl := List.mem_singleton.1 hf
      exact ⟨(by decide : HasHead "nodeId"), definite_ofText h⟩
  have hread := Cbor.read?_write hdefinite []
  have hfields : k.toCbor.fields? 0 names = some [.ofText k.nodeId] :=
    Cbor.Item.fields?_record names rfl (by decide) (by decide) 0
  rw [List.append_nil] at hread
  show (Cbor.read? k.toCbor.write).bind _ = some k
  rw [hread, Option.bind_some]
  simp [ofCbor?, hfields]

/-! ## Both formats -/

/-- A key is what its bytes say, in either format. -/
theorem MessageKey.decode?_encode {k : MessageKey} {f : Format} (h : f = .cbor → HasHead k.nodeId) :
    MessageKey.decode? (k.encode f) f = some k := by
  cases f with
  | json => exact k.decode?_json
  | cbor => exact MessageKey.decode?_cbor (h rfl)

theorem Message.decode?_encode {m : Message} {f : Format} (h : f = .cbor → m.Headed) :
    decode? (m.encode f) f = some m.carried := by
  cases f with
  | json => exact m.decode?_json
  | cbor => exact Message.decode?_cbor (h rfl)

/-- **Round trip**: the bytes of a message say the message as it is written, in either format, whatever its
texts hold and whatever instant its time is.  They say the message itself exactly if a leap second in its
time stands behind second 59.  Only in CBOR the texts must not be too long to have a head. -/
theorem Message.decode?_encode_self (m : Message) (f : Format) (h : f = .cbor → m.Headed) :
    decode? (m.encode f) f = some m.carried ∧ (decode? (m.encode f) f = some m ↔ m.Regular) := by
  have hdecode : decode? (m.encode f) f = some m.carried := Message.decode?_encode h
  refine ⟨hdecode, ?_⟩
  rw [hdecode, Option.some.injEq]
  exact m.carried_eq_self_iff

/-- A message made in a leap second of a year before the first, with quotes and controls in its texts. -/
def Message.leapExample : Message where
  metadata := ⟨"plant \"7\"", "", ⟨⟨-44, 12, 31, by decide⟩, ⟨23, 59, 59, 1000000001, by decide⟩⟩⟩
  payload := ⟨"ns=2;s=\\x🔥", "\x00\x1f", "é\n", "", "21.5"⟩

theorem Message.decode?_encode_leapExample : leapExample.Headed
    ∧ decode? (leapExample.encode .cbor) .cbor = some leapExample := by
  have hheaded : leapExample.Headed := by decide
  obtain ⟨-, hsame⟩ := decode?_encode_self leapExample .cbor fun _ => hheaded
  exact ⟨hheaded, hsame.2 (by decide)⟩

/-- A message made in a leap second behind second 4. -/
def Message.strayExample : Message where
  metadata := ⟨"plant", "", ⟨⟨2024, 1, 1, by decide⟩, ⟨23, 56, 4, 1333333333, by decide⟩⟩⟩
  payload := ⟨"ns=2;s=A", "", "", "", "21.5"⟩

/-- The same message, made in second 5. -/
def Message.strayRead : Message where
  metadata := ⟨"plant", "", ⟨⟨2024, 1, 1, by decide⟩, ⟨23, 56, 5, 333333333, by decide⟩⟩⟩
  payload := ⟨"ns=2;s=A", "", "", "", "21.5"⟩

theorem Message.headed_strayExample : strayExample.Headed := by decide

theorem Message.carried_strayExample : strayExample.carried = strayRead := by decide

theorem Message.strayRead_ne : strayRead ≠ strayExample := by decide

/-- In either format it reads back as the other message. -/
theorem Message.decode?_encode_strayExample :
    decode? (strayExample.encode .json) .json = some strayRead
    ∧ strayExample.Headed ∧ decode? (strayExample.encode .cbor) .cbor = some strayRead
    ∧ strayRead ≠ strayExample := by
  rw [← carried_strayExample]
  exact ⟨decode?_json _, headed_strayExample, decode?_cbor headed_strayExample,
    carried_strayExample ▸ strayRead_ne⟩

end FieldBridge
