/-
  JSON strings read back.

  What `escape` writes for a text, `unescape?` undoes (`unescape?_escape`).  Both walk the text
  character by character, so the induction is on the text and the step is one character
  (`unescapeFrom?_escapeChar`): an escape of one letter, an escape of four digits for the other control
  characters, or the UTF-8 bytes as they are, none of which is a backslash.
-/

import FieldBridge.Json.Value
import FieldBridge.Proofs.Text.Utf8

namespace FieldBridge.Json

/-! ## How each character is written -/

/-- The ways in which a character is written within a string. -/
inductive Escaped (c : Char) : Bytes → Prop where
  /-- Behind a backslash, by a letter that stands for its only byte. -/
  | letter {l b : UInt8} : letter? l = some b → Utf8.encodeChar c = [b] → l ≠ 0x75 →
      Escaped c [0x5C, l]
  /-- By four hexadecimal digits. -/
  | digits {d e : UInt8} : unit? 0x30 0x30 d e = some c.toNat → c.toNat < 0x20 →
      (Hex.digit? (Char.ofNat d.toNat)).isSome → (Hex.digit? (Char.ofNat e.toNat)).isSome →
      Escaped c [0x5C, 0x75, 0x30, 0x30, d, e]
  /-- As it is. -/
  | plain : (∀ b ∈ Utf8.encodeChar c, 0x20 ≤ b.toNat ∧ b ≠ 0x22 ∧ b ≠ 0x5C) →
      Escaped c (Utf8.encodeChar c)

/-- The bytes of a character that needs no escape are none of those that have a meaning of their own. -/
theorem encodeChar_plain {c : Char} (hquote : c ≠ '"') (hslash : c ≠ '\\') (hlow : 0x20 ≤ c.toNat) :
    ∀ b ∈ Utf8.encodeChar c, 0x20 ≤ b.toNat ∧ b ≠ 0x22 ∧ b ≠ 0x5C := by
  intro b hb
  rcases Nat.lt_or_ge c.toNat 0x80 with hascii | hhigh
  · have henc : Utf8.encodeChar c = [c.toNat.toUInt8] := if_pos hascii
    rw [henc, List.mem_singleton] at hb
    have hbn : b.toNat = c.toNat := by rw [hb, Utf8.toNat_byte (by omega)]
    refine ⟨by omega, ?_, ?_⟩
    · rintro rfl
      exact hquote (Char.toNat_inj.1 hbn.symm)
    · rintro rfl
      exact hslash (Char.toNat_inj.1 hbn.symm)
  · have hb80 := Utf8.encodeChar_high hhigh b hb
    refine ⟨by omega, ?_, ?_⟩
    · rintro rfl
      exact absurd hb80 (by decide)
    · rintro rfl
      exact absurd hb80 (by decide)

/-- Two hexadecimal digits write a control character. -/
theorem unit?_control : ∀ n < 0x20, ∃ d e : UInt8,
    (Hex.fixed 2 n).map (fun d => d.toNat.toUInt8) = [d, e] ∧ unit? 0x30 0x30 d e = some n ∧
      (Hex.digit? (Char.ofNat d.toNat)).isSome ∧ (Hex.digit? (Char.ofNat e.toNat)).isSome := by
  intro n hn
  refine ⟨(Hex.digit (n / 16 % 16)).toNat.toUInt8, (Hex.digit (n % 16)).toNat.toUInt8, rfl, ?_⟩
  revert n
  decide

/-- The characters that are written by one letter, each behind its letter. -/
def shortEscapes : List (UInt8 × Char) :=
  [(0x22, '"'), (0x5C, '\\'), (0x62, '\x08'), (0x74, '\t'), (0x6E, '\n'), (0x66, '\x0C'), (0x72, '\r')]

theorem escapeChar_short : ∀ p ∈ shortEscapes, escapeChar p.2 = [0x5C, p.1]
    ∧ letter? p.1 = some p.2.toNat.toUInt8 ∧ Utf8.encodeChar p.2 = [p.2.toNat.toUInt8]
    ∧ p.1 ≠ 0x75 := by
  decide

/-- Every character is written in one of the three ways. -/
theorem escaped_escapeChar (c : Char) : Escaped c (escapeChar c) := by
  by_cases hshort : c ∈ shortEscapes.map (·.2)
  · obtain ⟨p, hp, rfl⟩ := List.mem_map.1 hshort
    obtain ⟨hwritten, hletter, hbytes, hne⟩ := escapeChar_short p hp
    rw [hwritten]
    exact .letter hletter hbytes hne
  · simp only [shortEscapes, List.map_cons, List.map_nil, List.mem_cons, List.not_mem_nil, or_false,
      not_or] at hshort
    obtain ⟨hquote, hslash, hback, htab, hline, hfeed, hreturn⟩ := hshort
    rw [escapeChar, if_neg hquote, if_neg hslash, if_neg hback, if_neg htab, if_neg hline,
      if_neg hfeed, if_neg hreturn]
    split
    · rename_i hlow
      obtain ⟨d, e, hde, hunit, hd, he⟩ := unit?_control c.toNat hlow
      rw [hde]
      exact .digits hunit hlow hd he
    · rename_i hlow
      exact .plain (encodeChar_plain hquote hslash (Nat.not_lt.1 hlow))

/-! ## Undoing the escapes -/

/-- A byte that is no backslash says itself. -/
theorem unescapeFrom?_cons {b : UInt8} (h : b ≠ 0x5C) (done s : Bytes) :
    unescapeFrom? done (b :: s) = unescapeFrom? (b :: done) s := by
  rw [unescapeFrom?.eq_def]
  split
  · contradiction
  · rename_i heq
    simp_all
  · rename_i heq
    simp_all
  · rename_i heq
    simp_all
  · rename_i heq
    simp only [List.cons.injEq] at heq
    rw [heq.1, heq.2]

theorem unescapeFrom?_append {w : Bytes} (h : ∀ b ∈ w, b ≠ 0x5C) (done s : Bytes) :
    unescapeFrom? done (w ++ s) = unescapeFrom? (w.reverse ++ done) s := by
  induction w generalizing done with
  | nil => rfl
  | cons b w ih =>
    rw [List.cons_append, unescapeFrom?_cons (h b List.mem_cons_self),
      ih fun x hx => h x (List.mem_cons_of_mem b hx)]
    simp

/-- The written form of a character says its bytes. -/
theorem unescapeFrom?_escapeChar (c : Char) (done s : Bytes) :
    unescapeFrom? done (escapeChar c ++ s)
      = unescapeFrom? ((Utf8.encodeChar c).reverse ++ done) s := by
  have hesc := escaped_escapeChar c
  generalize escapeChar c = w at hesc
  cases hesc with
  | letter hletter hchar hu =>
    rename_i l b
    rw [hchar, List.cons_append, List.singleton_append, unescapeFrom?.eq_def]
    split
    · contradiction
    · rename_i heq
      simp_all
    · rename_i heq
      simp only [List.cons.injEq, true_and] at heq
      obtain ⟨rfl, rfl⟩ := heq
      simp [hletter]
    · rename_i heq
      simp_all
    · rename_i hne _ heq
      simp only [List.cons.injEq] at heq
      obtain ⟨rfl, rfl⟩ := heq
      exact (hne l s rfl rfl).elim
  | digits hunit hlow hd he =>
    have hc : Char.ofNat c.toNat = c := Char.ofNat_toNat c
    show unescapeFrom? done (0x5C :: 0x75 :: 0x30 :: 0x30 :: _ :: _ :: s) = _
    rw [unescapeFrom?.eq_def]
    simp only [hunit]
    rw [if_neg (by simp; omega), if_neg (by simp; omega), pushChar, hc]
  | plain hplain => exact unescapeFrom?_append (fun b hb => (hplain b hb).2.2) done s

theorem unescapeFrom?_escape (t : List Char) (done : Bytes) :
    unescapeFrom? done (escape t) = some (done.reverse ++ Utf8.encode t) := by
  induction t generalizing done with
  | nil => simp [escape, unescapeFrom?]
  | cons c t ih =>
    have hcons : escape (c :: t) = escapeChar c ++ escape t := rfl
    rw [hcons, unescapeFrom?_escapeChar, ih]
    simp

/-- **Round trip**: a written text says itself. -/
theorem unescape?_escape (t : List Char) : unescape? (escape t) = some (String.ofList t) := by
  simp [unescape?, unescapeFrom?_escape, Utf8.decode?_encode]

@[simp] theorem text?_ofText (s : String) : (ofText s).text? = some s := by
  simp [ofText, text?, unescape?_escape]

end FieldBridge.Json
