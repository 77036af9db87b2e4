/-
  Messages in texts of other makers.

  Problem: another program may write the members of a message in another order, put blanks between tokens
  and add members of its own.  The reader has to find the same message, and it has to notice when one of the
  ten known members is missing or repeated.

  1. **Specification** — `m.Rearranged v`: the value is an object that holds `metadata` and `payload`, these
     are objects that hold the texts of the message, and in all three the members stand in any order and
     among any others.  `Damaged v`: in one of the three a known name stands over no value or over several.

  2. **Reading** — a record of texts is read from the values under its names only
     (`Metadata.ofJson?_of_fields?`, `Payload.ofJson?_of_fields?`), and the blanks of a text do not matter
     (`Json.read?_of_writes`).

  What a text says is therefore decided by its known members (`decode?_of_writes`).
-/

import FieldBridge.Proofs.Message.RoundTrip

namespace FieldBridge

open Json (Quotable WellFormed Writes Extends)

namespace Message

/-! ## Rearranged messages -/

/-- The value is the message, the members of its objects in any order and among any others. -/
def Rearranged (m : Message) (v : Json) : Prop :=
  ∃ metadata payload, Extends m.metadata.fields metadata ∧ Extends m.payload.fields payload
    ∧ Extends [("metadata", metadata), ("payload", payload)] v

/-- The value that a message is written as is one of these. -/
theorem rearranged_toJson (m : Message) : m.Rearranged m.toJson :=
  ⟨m.metadata.toJson, m.payload.toJson, Json.extends_record _, Json.extends_record _,
    Json.extends_record _⟩

theorem Rearranged.wellFormed {m : Message} {v : Json} (h : m.Rearranged v) : WellFormed v := by
  obtain ⟨metadata, payload, hmetadata, hpayload, hv⟩ := h
  have hfirst := Json.wellFormed_of_extends m.metadata.wellFormed_fields hmetadata
  have hsecond := Json.wellFormed_of_extends m.payload.wellFormed_fields hpayload
  exact Json.wellFormed_of_extends (by simp [hfirst, hsecond]) hv

/-- It is read as the message is from its own text. -/
theorem Rearranged.ofJson? {m : Message} {v : Json} (h : m.Rearranged v) :
    Message.ofJson? v = some m.carried := by
  obtain ⟨metadata, payload, hmetadata, hpayload, hv⟩ := h
  have hfields : v.fields? names = some [metadata, payload] :=
    Json.fields?_of_extends names rfl (by decide) hv
  have hfirst : Metadata.ofJson? metadata = some m.metadata.carried :=
    Metadata.ofJson?_of_fields? (Json.fields?_of_extends Metadata.names rfl (by decide) hmetadata)
  have hsecond : Payload.ofJson? payload = some m.payload :=
    Payload.ofJson?_of_fields? (Json.fields?_of_extends Payload.names rfl (by decide) hpayload)
  simp [Message.ofJson?, hfields, hfirst, hsecond, carried]

/-! ## Damaged messages -/

/-- In the object, or in the one under `metadata` or `payload`, a known name stands over no value or over
several. -/
def Damaged (v : Json) : Prop :=
  Json.Damaged names v ∨ ∃ members, v = .object members
    ∧ ((∃ metadata ∈ Json.under members "metadata", Json.Damaged Metadata.names metadata)
      ∨ ∃ payload ∈ Json.under members "payload", Json.Damaged Payload.names payload)

/-- It is read as no message. -/
theorem Damaged.ofJson? {v : Json} (h : Damaged v) : Message.ofJson? v = none := by
  rcases h with htop | ⟨members, rfl, hinner⟩
  · simp [Message.ofJson?, Json.fields?_of_damaged htop]
  refine Option.eq_none_iff_forall_ne_some.2 fun m hm => ?_
  obtain ⟨values, hfields, hread⟩ := Option.bind_eq_some_iff.1 hm
  -- under each of the two names there is one value, the one that is read
  obtain ⟨-, hall⟩ := Json.fields?_object_iff.1 hfields
  rw [names, List.forall₂_cons_left_iff] at hall
  obtain ⟨metadata, rest, hmetadata, hall, rfl⟩ := hall
  rw [List.forall₂_cons_left_iff] at hall
  obtain ⟨payload, rest, hpayload, hnil, rfl⟩ := hall
  obtain rfl := List.forall₂_nil_left_iff.1 hnil
  rcases hinner with ⟨v, hv, hdamaged⟩ | ⟨v, hv, hdamaged⟩
  · obtain rfl := List.mem_singleton.1 (hmetadata ▸ hv)
    simp [Metadata.ofJson?, Json.fields?_of_damaged hdamaged] at hread
  · obtain rfl := List.mem_singleton.1 (hpayload ▸ hv)
    simp [Payload.ofJson?, Json.fields?_of_damaged hdamaged] at hread

/-! ## Texts -/

/-- **Members**: what a text says is decided by its known members.  A text that writes a message with the
members of its objects in any order, among any others and with blanks wherever they may stand says this
message as it is written; the text that a message is encoded as is one of these.  So it says the message
itself exactly if a leap second in its time stands behind second 59.  A text in which one of the ten known
members is missing or repeated says no message. -/
theorem decode?_of_writes :
    (∀ m : Message, m.Rearranged m.toJson ∧ Writes m.toJson (m.encode .json)
      ∧ (m.carried = m ↔ m.Regular))
    ∧ ∀ (v : Json) (s : Bytes), Writes v s →
      (∀ m : Message, m.Rearranged v → decode? s .json = some m.carried)
      ∧ (WellFormed v → Damaged v → decode? s .json = none) := by
  refine ⟨fun m => ⟨m.rearranged_toJson, Json.writes_write m.toJson, m.carried_eq_self_iff⟩,
    fun v s hs => ?_⟩
  have hdecode : WellFormed v → decode? s .json = ofJson? v := by
    intro hv
    show (Json.read? s).bind ofJson? = ofJson? v
    rw [Json.read?_of_writes hv hs, Option.bind_some]
  constructor
  · intro m hm
    rw [hdecode hm.wellFormed, hm.ofJson?]
  · intro hv hdamaged
    rw [hdecode hv, hdamaged.ofJson?]

/-- A member of another name.  In its value there are a number with all its parts, and a key and a string
that are well formed but say no text. -/
def note : Bytes × Json :=
  (Json.ascii "note", .array [.number (Json.ascii "-0.5e+3"), .object [(Json.ascii "\\ud800", .null)],
    .string [0xFF]])

/-- The members of the message from last to first, each list of them behind a member of another name. -/
def leapReversed : Json :=
  .object (note :: (Json.keyed
    [("metadata", .object (note :: (Json.keyed leapExample.metadata.fields).reverse)),
      ("payload", .object (note :: (Json.keyed leapExample.payload.fields).reverse))]).reverse)

/-- Its text with two blanks in front of each token and another behind the last. -/
def leapSpaced : Bytes := (Json.tokens leapReversed).flatMap (fun t => [0x20, 0x0A] ++ t.write) ++ [0x09]

/-- A payload with one of its texts twice. -/
def repeatedPayload : Json := .record (leapExample.payload.fields ++ [("value", .ofText "21.5")])

/-- A message with this payload. -/
def leapRepeated : Json :=
  .record [("metadata", leapExample.metadata.toJson), ("payload", repeatedPayload)]

/-- Members reversed, others added and blanks everywhere: the same message.  One text twice: none. -/
theorem decode?_of_writes_leapExample :
    (Writes leapReversed leapSpaced ∧ leapExample.Rearranged leapReversed
      ∧ decode? leapSpaced .json = some leapExample)
    ∧ Writes leapRepeated leapRepeated.write ∧ WellFormed leapRepeated ∧ Damaged leapRepeated
    ∧ decode? leapRepeated.write .json = none := by
  have hspaced : Writes leapReversed leapSpaced :=
    Json.spaced_flatMap (by simp [Json.Gap, Json.isBlank]) (by simp [Json.Gap, Json.isBlank]) _
  have hnote : ∀ names : List String, "note" ∉ names → Json.Foreign names [note] := by
    intro names hnames m hm
    obtain rfl := List.mem_singleton.1 hm
    have hkey : Quotable (Json.ascii "note") := Json.quotable_escape "note".toList
    have hnumber : Json.IsNumber (Json.ascii "-0.5e+3") :=
      Json.numeral_iff.1 ⟨.sign, rfl, .exponent, rfl, rfl⟩
    have hsurrogate : Quotable (Json.ascii "\\ud800") := by
      refine .digits ?_ .nil
      simp only [List.forall_mem_cons]
      exact ⟨by decide, by decide, by decide, by decide, by simp⟩
    have hbyte : Quotable [0xFF] := .plain (by decide) (by decide) (by decide) .nil
    have hvalue : WellFormed note.2 := ⟨hnumber, ⟨hsurrogate, trivial, trivial⟩, hbyte, trivial⟩
    exact ⟨hkey, hvalue, "note", Json.unescape?_escape "note".toList, hnames⟩
  have hreverse : ∀ fields : List (String × Json), "note" ∉ fields.map (·.1) →
      Extends fields (.object (note :: (Json.keyed fields).reverse)) := by
    intro fields hfields
    have hlast := (List.perm_append_singleton note (Json.keyed fields).reverse).symm
    exact ⟨_, [note], rfl, hnote _ hfields, hlast.trans ((List.reverse_perm _).append_right _)⟩
  have hreversed : leapExample.Rearranged leapReversed :=
    ⟨_, _, hreverse _ (by decide), hreverse _ (by decide), hreverse _ (by decide)⟩
  have hrepeated := Json.writes_write leapRepeated
  have hwell : WellFormed leapRepeated := by
    have hmetadata : WellFormed leapExample.metadata.toJson :=
      Json.wellFormed_record leapExample.metadata.wellFormed_fields
    have hpayload : WellFormed repeatedPayload := by
      refine Json.wellFormed_record (List.forall_mem_append.2 ⟨leapExample.payload.wellFormed_fields, ?_⟩)
      simp [Json.wellFormed_ofText]
    exact Json.wellFormed_record (by simp [hmetadata, hpayload])
  have hdamaged : Damaged leapRepeated := by
    refine .inr ⟨_, rfl, .inr ⟨repeatedPayload, ?_, _, rfl, "value", by decide, ?_⟩⟩
    · exact (Json.under_keyed _ "payload").symm ▸ List.mem_singleton_self _
    · have htwice := congrArg List.length (Json.under_keyed
        (leapExample.payload.fields ++ [("value", .ofText "21.5")]) "value")
      exact fun hone => absurd (htwice.symm.trans hone) (by decide)
  obtain ⟨hmessages, hdecode⟩ := decode?_of_writes
  obtain ⟨-, -, hregular⟩ := hmessages leapExample
  obtain ⟨hsame, -⟩ := hdecode leapReversed leapSpaced hspaced
  have hread := hsame leapExample hreversed
  rw [hregular.2 (by decide)] at hread
  obtain ⟨-, hnone⟩ := hdecode leapRepeated leapRepeated.write hrepeated
  exact ⟨⟨hspaced, hreversed, hread⟩, hrepeated, hwell, hdamaged, hnone hwell hdamaged⟩

/-- The message with a leap second behind second 4, its payload in front of its metadata. -/
def strayReversed : Json :=
  .record [("payload", strayExample.payload.toJson), ("metadata", strayExample.metadata.toJson)]

/-- The same text is one of the message made in second 5, and is read as that. -/
theorem decode?_of_writes_strayExample : Writes strayReversed strayReversed.write
    ∧ strayExample.Rearranged strayReversed
    ∧ decode? strayReversed.write .json = some strayRead ∧ strayRead ≠ strayExample := by
  have hwrites := Json.writes_write strayReversed
  have hreversed : strayExample.Rearranged strayReversed :=
    ⟨_, _, Json.extends_record _, Json.extends_record _, _, [], rfl, by simp [Json.Foreign],
      List.Perm.swap _ _ _⟩
  have hread : decode? strayReversed.write .json = ofJson? strayReversed := by
    show (Json.read? strayReversed.write).bind ofJson? = ofJson? strayReversed
    rw [Json.read?_of_writes hreversed.wellFormed hwrites, Option.bind_some]
  rw [hread, hreversed.ofJson?, carried_strayExample]
  exact ⟨hwrites, hreversed, rfl, strayRead_ne⟩

end Message

end FieldBridge
