/-
  Where a message ends.

  1. **Cut off** — a message is an object in JSON and a definite map in CBOR, and neither can be read before
     its last byte (`decode?_prefix`).

  2. **In front of more** — the formats differ in what may follow.  CBOR leaves it unread
     (`decode?_cbor_append`); in JSON it must be blank (`decode?_json_append`).
-/

import FieldBridge.Proofs.Cbor.Prefix
import FieldBridge.Proofs.Json.Prefix
import FieldBridge.Proofs.Message.RoundTrip

namespace FieldBridge.Message

/-! ## Cut off -/

/-- **Cut off**: no proper prefix of a message's bytes is a message, in either format. -/
theorem decode?_prefix {m : Message} {f : Format} {s : Bytes} (hm : f = .cbor → m.Headed)
    (h : s <+: m.encode f) (hne : s ≠ m.encode f) : decode? s f = none := by
  cases f with
  | json =>
    have hread : Json.read? s = none := Json.read?_prefix m.wellFormed_toJson h hne
    rw [decode?, hread, Option.bind_none]
  | cbor =>
    have hread : Cbor.read? s = none := Cbor.read?_prefix (definite_toCbor (hm rfl)) h hne
    rw [decode?, hread, Option.bind_none]

/-! ## In front of more -/

theorem decode?_cbor_append {m : Message} (h : m.Headed) (rest : Bytes) :
    decode? (m.encode .cbor ++ rest) .cbor = some m.carried := by
  have hread := Cbor.read?_write (definite_toCbor h) rest
  rw [decode?, encode, hread, Option.bind_some]
  exact m.ofCbor?_toCbor

theorem decode?_json_append (m : Message) (rest : Bytes) :
    decode? (m.encode .json ++ rest) .json
      = if rest.all Json.isBlank then some m.carried else none := by
  have hread : Json.read? (m.encode .json ++ rest)
      = if rest.all Json.isBlank then some m.toJson else none :=
    Json.read?_append (Or.inr rfl) (Json.read?_write m.wellFormed_toJson) rest
  rw [decode?, hread]
  split
  · exact m.ofJson?_toJson
  · rfl

/-- **Delimitation**: the bytes of a message end where the message ends.  No proper prefix of them is a
message, in either format; in CBOR anything may follow; in JSON spaces, tabs, line feeds and carriage
returns may follow and nothing else.  What is read is the message as it is written, which is the message
itself exactly if a leap second in its time stands behind second 59. -/
theorem delimits_itself (m : Message) :
    (∀ (f : Format) (s : Bytes), (f = .cbor → m.Headed) → s <+: m.encode f → s ≠ m.encode f →
      decode? s f = none)
    ∧ (∀ rest : Bytes, m.Headed → decode? (m.encode .cbor ++ rest) .cbor = some m.carried)
    ∧ (∀ rest : Bytes,
      (decode? (m.encode .json ++ rest) .json = some m.carried ↔ ∀ b ∈ rest, b ∈ Json.blanks)
      ∧ (decode? (m.encode .json ++ rest) .json = none ↔ ∃ b ∈ rest, b ∉ Json.blanks))
    ∧ (m.carried = m ↔ m.Regular) := by
  refine ⟨fun f s hm h hne => decode?_prefix hm h hne, fun rest h => decode?_cbor_append h rest,
    fun rest => ?_, m.carried_eq_self_iff⟩
  rw [decode?_json_append]
  split
  · rename_i hblank
    simpa [Json.isBlank_iff] using hblank
  · rename_i hblank
    simpa [Json.isBlank_iff] using hblank

/-- The last byte of a message cannot be spared; what stands behind it need not be CBOR. -/
theorem delimits_itself_leapExample : leapExample.Headed
    ∧ (leapExample.encode .cbor).dropLast <+: leapExample.encode .cbor
    ∧ (leapExample.encode .cbor).dropLast ≠ leapExample.encode .cbor
    ∧ decode? (leapExample.encode .cbor).dropLast .cbor = none
    ∧ decode? (leapExample.encode .cbor ++ [0xFF, 0x1C]) .cbor = some leapExample := by
  have hheaded : leapExample.Headed := by decide
  have hprefix : (leapExample.encode .cbor).dropLast <+: leapExample.encode .cbor :=
    List.dropLast_prefix _
  have hpos : 0 < (leapExample.encode .cbor).length := by
    refine List.length_pos_iff.2 fun hnil => ?_
    have hread := decode?_cbor hheaded
    rw [hnil] at hread
    exact absurd hread (by simp [decode?, Cbor.read?, Cbor.readFrom?, Cbor.step?, Cbor.takeHead?])
  have hshorter : (leapExample.encode .cbor).dropLast ≠ leapExample.encode .cbor := by
    intro h
    have hlength := congrArg List.length h
    rw [List.length_dropLast] at hlength
    omega
  obtain ⟨hcut, hcbor, -, hsame⟩ := delimits_itself leapExample
  have hread := hcbor [0xFF, 0x1C] hheaded
  rw [hsame.2 (by decide)] at hread
  exact ⟨hheaded, hprefix, hshorter, hcut .cbor _ (fun _ => hheaded) hprefix hshorter, hread⟩

/-- What is read in front of more bytes, in CBOR, or of a blank, in JSON, is not the message where its time
has a leap second behind second 4. -/
theorem decode?_append_strayExample : strayExample.Headed
    ∧ decode? (strayExample.encode .cbor ++ [0xFF]) .cbor = some strayRead
    ∧ 0x20 ∈ Json.blanks ∧ decode? (strayExample.encode .json ++ [0x20]) .json = some strayRead
    ∧ strayRead ≠ strayExample := by
  have hcbor := decode?_cbor_append headed_strayExample [0xFF]
  have hjson := decode?_json_append strayExample [0x20]
  rw [carried_strayExample] at hcbor hjson
  exact ⟨headed_strayExample, hcbor, by decide, hjson, strayRead_ne⟩

end FieldBridge.Message
