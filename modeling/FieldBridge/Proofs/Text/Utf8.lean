/-
  UTF-8 read back.

  1. **Step** — reading the bytes of one character gives that character and goes on behind them
     (`decodeFrom?_encodeChar`), one case for each length of the written form.

  2. **Text** — reading the bytes of a text gives the text (`decode?_encode`), by induction on it.

  The bytes of a character beyond ASCII are all above 0x7F (`encodeChar_high`), so no reader takes one of
  them for a quote, a backslash or a control character.
-/

import FieldBridge.Text.Utf8

namespace FieldBridge.Utf8

/-! ## One character -/

theorem toNat_byte {n : Nat} (h : n < 256) : n.toUInt8.toNat = n := by
  rw [Nat.toUInt8_eq, UInt8.toNat_ofNat']
  omega

theorem isTail_add {n : Nat} (h : n < 64) : isTail (0x80 + n) = true := by
  simp only [isTail, Bool.and_eq_true, decide_eq_true_eq]
  omega

/-- Reading the bytes of one character puts it behind those read so far. -/
theorem decodeFrom?_encodeChar (c : Char) (done : List Char) (s : Bytes) :
    decodeFrom? done (encodeChar c ++ s) = decodeFrom? (c :: done) s := by
  have hc : Char.ofNat c.toNat = c := Char.ofNat_toNat c
  have hscalar : c.toNat < 0xD800 ∨ (0xDFFF < c.toNat ∧ c.toNat < 0x110000) := c.valid
  have hmod (k : Nat) : k % 64 < 64 := Nat.mod_lt k (by decide)
  unfold encodeChar
  simp only
  generalize c.toNat = n at *
  split
  · rw [List.singleton_append, decodeFrom?.eq_def]
    simp only [toNat_byte (show n < 256 by omega), if_pos (show n < 0x80 by assumption), hc]
  split
  · -- two bytes: below 0x800
    have hn : (0xC0 + n / 64 - 0xC0) * 64 + (0x80 + n % 64 - 0x80) = n := by omega
    rw [List.cons_append, List.singleton_append, decodeFrom?.eq_def]
    simp only [toNat_byte (show 0xC0 + n / 64 < 256 by omega),
      toNat_byte (show 0x80 + n % 64 < 256 by omega), isTail_add (hmod n), hn, hc]
    rw [if_neg (by omega), if_neg (by simp), if_pos (by simp; omega)]
  split
  · -- three bytes: below 0x10000
    have hn : (0xE0 + n / 4096 - 0xE0) * 4096 + (0x80 + n / 64 % 64 - 0x80) * 64
        + (0x80 + n % 64 - 0x80) = n := by omega
    rw [List.cons_append, List.cons_append, List.singleton_append, decodeFrom?.eq_def]
    simp only [toNat_byte (show 0xE0 + n / 4096 < 256 by omega),
      toNat_byte (show 0x80 + n / 64 % 64 < 256 by omega),
      toNat_byte (show 0x80 + n % 64 < 256 by omega), isTail_add (hmod n), isTail_add (hmod (n / 64)),
      hn, hc]
    rw [if_neg (by omega), if_neg (by simp), if_neg (by simp), if_neg (by simp),
      if_pos (by simp; omega), if_pos (by simp; omega)]
  · have hn : (0xF0 + n / 262144 - 0xF0) * 262144 + (0x80 + n / 4096 % 64 - 0x80) * 4096
        + (0x80 + n / 64 % 64 - 0x80) * 64 + (0x80 + n % 64 - 0x80) = n := by omega
    rw [List.cons_append, List.cons_append, List.cons_append, List.singleton_append,
      decodeFrom?.eq_def]
    simp only [toNat_byte (show 0xF0 + n / 262144 < 256 by omega),
      toNat_byte (show 0x80 + n / 4096 % 64 < 256 by omega),
      toNat_byte (show 0x80 + n / 64 % 64 < 256 by omega),
      toNat_byte (show 0x80 + n % 64 < 256 by omega), isTail_add (hmod n), isTail_add (hmod (n / 64)),
      isTail_add (hmod (n / 4096)), hn, hc]
    rw [if_neg (by omega), if_neg (by simp), if_neg (by simp; omega), if_neg (by simp),
      if_neg (by simp), if_neg (by simp), if_pos (by simp; omega), if_pos (by simp; omega)]

/-- A character beyond ASCII is written with bytes above 0x7F alone. -/
theorem encodeChar_high {c : Char} (h : 0x80 ≤ c.toNat) : ∀ b ∈ encodeChar c, 0x80 ≤ b.toNat := by
  have hscalar : c.toNat < 0xD800 ∨ (0xDFFF < c.toNat ∧ c.toNat < 0x110000) := c.valid
  intro b hb
  unfold encodeChar at hb
  simp only at hb
  generalize c.toNat = n at *
  rw [if_neg (by omega)] at hb
  split at hb
  · simp only [List.mem_cons, List.not_mem_nil, or_false] at hb
    rcases hb with rfl | rfl <;> rw [toNat_byte (by omega)] <;> omega
  split at hb
  · simp only [List.mem_cons, List.not_mem_nil, or_false] at hb
    rcases hb with rfl | rfl | rfl <;> rw [toNat_byte (by omega)] <;> omega
  · simp only [List.mem_cons, List.not_mem_nil, or_false] at hb
    rcases hb with rfl | rfl | rfl | rfl <;> rw [toNat_byte (by omega)] <;> omega

/-- A character takes at most four bytes. -/
theorem length_encodeChar_le (c : Char) : (encodeChar c).length ≤ 4 := by
  unfold encodeChar
  simp only
  split
  · simp
  split
  · simp
  split <;> simp

/-! ## Texts -/

theorem decodeFrom?_encode (s : List Char) (done : List Char) :
    decodeFrom? done (encode s) = some (done.reverse ++ s) := by
  induction s generalizing done with
  | nil => simp [decodeFrom?]
  | cons c s ih =>
    rw [encode_cons, decodeFrom?_encodeChar, ih, List.reverse_cons, List.append_assoc,
      List.singleton_append]

/-- **Round trip**: every text is what its bytes say. -/
theorem decode?_encode (s : List Char) : decode? (encode s) = some s :=
  decodeFrom?_encode s []

/-- Two texts with the same bytes are the same text. -/
theorem encode_injective {s t : List Char} (h : encode s = encode t) : s = t := by
  have hst : some s = some t := by rw [← decode?_encode s, h, decode?_encode]
  exact Option.some.inj hst

theorem ofString_injective {s t : String} (h : ofString s = ofString t) : s = t :=
  String.toList_injective (encode_injective h)

theorem length_encode_le (s : List Char) : (encode s).length ≤ 4 * s.length := by
  induction s with
  | nil => simp
  | cons c s ih =>
    have hc := length_encodeChar_le c
    rw [encode_cons, List.length_append, List.length_cons]
    omega

end FieldBridge.Utf8
