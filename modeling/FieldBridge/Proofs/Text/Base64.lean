/-
  Base 64 read back.

  1. **Symbols** — a variant is `Proper` if it reads every symbol as the number that it stands for and the
     filling as no number.  Both variants in use are.

  2. **Round trip** — what a proper variant writes it reads back (`decode?_encode`), group by group: the
     bits of three bytes are put together again from four numbers below 64.

  3. **Alphabet** — a written form holds symbols, and the filling if the variant is padded (`mem_encode`).

  4. **Canonical forms** — nothing but written forms is read: the numbers of a group are put together again
     from its bytes, for the unused bits of a last group are zero (`decode?_eq_some_iff`).  So an unpadded
     variant reads no text whose length or whose last symbol no written form has (`decode?_irregular`).
-/

import FieldBridge.Proofs.Text.Utf8
import FieldBridge.Text.Base64

namespace FieldBridge.Base64

/-- Symbols stand for their numbers, and the filling for none. -/
structure Variant.Proper (v : Variant) : Prop where
  number?_symbol : ∀ n < 64, v.number? (v.symbol n) = some n
  number?_filling : v.number? '=' = none

theorem proper_standard : standard.Proper := ⟨by decide, by decide⟩

theorem proper_urlSafe : urlSafe.Proper := ⟨by decide, by decide⟩

/-- A number with the value of a byte is that byte. -/
theorem toUInt8_eq {n : Nat} {a : UInt8} (h : n = a.toNat) : n.toUInt8 = a := by
  subst h
  simp

namespace Variant

variable {v : Variant}

theorem Proper.symbol_ne_filling (hv : v.Proper) {n : Nat} (h : n < 64) : v.symbol n ≠ '=' := by
  intro heq
  have hnumber := hv.number?_symbol n h
  rw [heq, hv.number?_filling] at hnumber
  exact absurd hnumber (by simp)

/-! ## Groups -/

theorem Proper.lastOne?_encode (hv : v.Proper) (a : UInt8) :
    v.lastOne? (v.symbol (a.toNat / 4)) (v.symbol (a.toNat % 4 * 16)) = some [a] := by
  have ha := a.toNat_lt
  have hlow : a.toNat % 4 * 16 % 16 = 0 := by omega
  have hbyte : (a.toNat / 4 * 4 + a.toNat % 4 * 16 / 16).toUInt8 = a := toUInt8_eq (by omega)
  simp only [lastOne?, hv.number?_symbol (a.toNat / 4) (by omega),
    hv.number?_symbol (a.toNat % 4 * 16) (by omega), Option.bind_eq_bind, Option.bind_some, hlow,
    if_true, hbyte]

theorem Proper.lastTwo?_encode (hv : v.Proper) (a b : UInt8) :
    v.lastTwo? (v.symbol (a.toNat / 4)) (v.symbol (a.toNat % 4 * 16 + b.toNat / 16))
      (v.symbol (b.toNat % 16 * 4)) = some [a, b] := by
  have ha := a.toNat_lt
  have hb := b.toNat_lt
  have hlow : b.toNat % 16 * 4 % 4 = 0 := by omega
  have hfirst : (a.toNat / 4 * 4 + (a.toNat % 4 * 16 + b.toNat / 16) / 16).toUInt8 = a :=
    toUInt8_eq (by omega)
  have hsecond : ((a.toNat % 4 * 16 + b.toNat / 16) % 16 * 16 + b.toNat % 16 * 4 / 4).toUInt8 = b :=
    toUInt8_eq (by omega)
  simp only [lastTwo?, hv.number?_symbol (a.toNat / 4) (by omega),
    hv.number?_symbol (a.toNat % 4 * 16 + b.toNat / 16) (by omega),
    hv.number?_symbol (b.toNat % 16 * 4) (by omega), Option.bind_eq_bind, Option.bind_some, hlow,
    if_true, hfirst, hsecond]

theorem Proper.group?_encode (hv : v.Proper) (a b c : UInt8) :
    v.group? (v.symbol (a.toNat / 4)) (v.symbol (a.toNat % 4 * 16 + b.toNat / 16))
      (v.symbol (b.toNat % 16 * 4 + c.toNat / 64)) (v.symbol (c.toNat % 64)) = some [a, b, c] := by
  have ha := a.toNat_lt
  have hb := b.toNat_lt
  have hc := c.toNat_lt
  have hfirst : (a.toNat / 4 * 4 + (a.toNat % 4 * 16 + b.toNat / 16) / 16).toUInt8 = a :=
    toUInt8_eq (by omega)
  have hsecond : ((a.toNat % 4 * 16 + b.toNat / 16) % 16 * 16
      + (b.toNat % 16 * 4 + c.toNat / 64) / 4).toUInt8 = b := toUInt8_eq (by omega)
  have hthird : ((b.toNat % 16 * 4 + c.toNat / 64) % 4 * 64 + c.toNat % 64).toUInt8 = c :=
    toUInt8_eq (by omega)
  simp only [group?, hv.number?_symbol (a.toNat / 4) (by omega),
    hv.number?_symbol (a.toNat % 4 * 16 + b.toNat / 16) (by omega),
    hv.number?_symbol (b.toNat % 16 * 4 + c.toNat / 64) (by omega),
    hv.number?_symbol (c.toNat % 64) (by omega), Option.bind_eq_bind, Option.bind_some, hfirst, hsecond,
    hthird]

/-- A group that is not filled up is read as three bytes, also if it is the last. -/
theorem decode?_group (p q r : Char) {s : Char} (hs : s ≠ '=') (rest : List Char) :
    v.decode? (p :: q :: r :: s :: rest) = (do
      let bytes ← v.group? p q r s
      let more ← v.decode? rest
      some (bytes ++ more)) := by
  cases rest with
  | nil => cases hgroup : v.group? p q r s <;> simp [decode?, hs, hgroup]
  | cons c rest =>
    rw [decode?]
    simp

/-! ## Round trip -/

/-- **Round trip**: what is written is read back. -/
theorem Proper.decode?_encode (hv : v.Proper) (s : Bytes) : v.decode? (v.encode s) = some s := by
  induction s using encode.induct with
  | case1 => rfl
  | case2 a =>
    cases hpadded : v.padded <;>
      simp [encode, filling, decode?, hpadded, List.replicate, hv.lastOne?_encode a]
  | case3 a b =>
    have hsymbol : v.symbol (b.toNat % 16 * 4) ≠ '=' := hv.symbol_ne_filling (by omega)
    cases hpadded : v.padded <;>
      simp [encode, filling, decode?, hpadded, hsymbol, hv.lastTwo?_encode a b]
  | case4 a b c s ih =>
    have hsymbol : v.symbol (c.toNat % 64) ≠ '=' := hv.symbol_ne_filling (by omega)
    simp [encode, decode?_group _ _ _ hsymbol, hv.group?_encode a b c, ih]

/-! ## Alphabet -/

/-- A written form holds symbols and, in a padded variant, the filling. -/
theorem mem_encode {s : Bytes} {c : Char} (h : c ∈ v.encode s) :
    (∃ n < 64, c = v.symbol n) ∨ v.padded = true ∧ c = '=' := by
  have hfilling : ∀ {k : Nat}, c ∈ v.filling k → v.padded = true ∧ c = '=' := by
    intro k hk
    unfold filling at hk
    split at hk
    · rename_i hpadded
      exact ⟨hpadded, (List.mem_replicate.1 hk).2⟩
    · exact absurd hk List.not_mem_nil
  induction s using encode.induct with
  | case1 => exact absurd h List.not_mem_nil
  | case2 a =>
    have ha := a.toNat_lt
    simp only [encode, List.cons_append, List.nil_append, List.mem_cons] at h
    rcases h with rfl | rfl | hk
    · exact Or.inl ⟨a.toNat / 4, by omega, rfl⟩
    · exact Or.inl ⟨a.toNat % 4 * 16, by omega, rfl⟩
    · exact Or.inr (hfilling hk)
  | case3 a b =>
    have ha := a.toNat_lt
    have hb := b.toNat_lt
    simp only [encode, List.cons_append, List.nil_append, List.mem_cons] at h
    rcases h with rfl | rfl | rfl | hk
    · exact Or.inl ⟨a.toNat / 4, by omega, rfl⟩
    · exact Or.inl ⟨a.toNat % 4 * 16 + b.toNat / 16, by omega, rfl⟩
    · exact Or.inl ⟨b.toNat % 16 * 4, by omega, rfl⟩
    · exact Or.inr (hfilling hk)
  | case4 a b c' s ih =>
    have ha := a.toNat_lt
    have hb := b.toNat_lt
    have hc := c'.toNat_lt
    simp only [encode, List.cons_append, List.nil_append, List.mem_cons] at h
    rcases h with rfl | rfl | rfl | rfl | hrest
    · exact Or.inl ⟨a.toNat / 4, by omega, rfl⟩
    · exact Or.inl ⟨a.toNat % 4 * 16 + b.toNat / 16, by omega, rfl⟩
    · exact Or.inl ⟨b.toNat % 16 * 4 + c'.toNat / 64, by omega, rfl⟩
    · exact Or.inl ⟨c'.toNat % 64, by omega, rfl⟩
    · exact ih hrest

/-! ## Canonical forms -/

/-- A symbol that stands for a number is the symbol of that number. -/
theorem symbol_number? {c : Char} {n : Nat} (h : v.number? c = some n) : n < 64 ∧ v.symbol n = c := by
  have hc : Char.ofNat c.toNat = c := Char.ofNat_toNat c
  simp only [number?] at h
  split at h
  · rename_i hcapital
    obtain rfl := Option.some.inj h
    refine ⟨by omega, ?_⟩
    rw [symbol, if_pos (by omega), Nat.add_sub_cancel' hcapital.1, hc]
  split at h
  · rename_i hsmall
    obtain rfl := Option.some.inj h
    refine ⟨by omega, ?_⟩
    rw [symbol, if_neg (by omega), if_pos (by omega), Nat.add_sub_cancel' (by omega), hc]
  split at h
  · rename_i hdigit
    obtain rfl := Option.some.inj h
    refine ⟨by omega, ?_⟩
    rw [symbol, if_neg (by omega), if_neg (by omega), if_pos (by omega), Nat.add_sub_cancel, hc]
  split at h
  · rename_i h62
    obtain rfl := Option.some.inj h
    exact ⟨by decide, h62.symm⟩
  split at h
  · rename_i h63
    obtain rfl := Option.some.inj h
    exact ⟨by decide, h63.symm⟩
  · exact absurd h (by simp)

theorem encode_lastOne? {p q : Char} {s : Bytes} (h : v.lastOne? p q = some s) :
    v.encode s = [p, q] ++ v.filling 2 := by
  simp only [lastOne?, Option.bind_eq_bind, Option.bind_eq_some_iff] at h
  obtain ⟨m, hm, n, hn, h⟩ := h
  obtain ⟨hm64, hp⟩ := symbol_number? hm
  obtain ⟨hn64, hq⟩ := symbol_number? hn
  split at h
  · rename_i hzero
    obtain rfl := Option.some.inj h
    have hbyte : (m * 4 + n / 16).toUInt8.toNat = m * 4 + n / 16 := Utf8.toNat_byte (by omega)
    have hhigh : (m * 4 + n / 16) / 4 = m := by omega
    have hlow : (m * 4 + n / 16) % 4 * 16 = n := by omega
    simp only [encode, hbyte, hhigh, hlow, hp, hq]
  · exact absurd h (by simp)

theorem encode_lastTwo? {p q r : Char} {s : Bytes} (h : v.lastTwo? p q r = some s) :
    v.encode s = [p, q, r] ++ v.filling 1 := by
  simp only [lastTwo?, Option.bind_eq_bind, Option.bind_eq_some_iff] at h
  obtain ⟨l, hl, m, hm, n, hn, h⟩ := h
  obtain ⟨hl64, hp⟩ := symbol_number? hl
  obtain ⟨hm64, hq⟩ := symbol_number? hm
  obtain ⟨hn64, hr⟩ := symbol_number? hn
  split at h
  · rename_i hzero
    obtain rfl := Option.some.inj h
    have hfirst : (l * 4 + m / 16).toUInt8.toNat = l * 4 + m / 16 := Utf8.toNat_byte (by omega)
    have hsecond : (m % 16 * 16 + n / 4).toUInt8.toNat = m % 16 * 16 + n / 4 :=
      Utf8.toNat_byte (by omega)
    have hhigh : (l * 4 + m / 16) / 4 = l := by omega
    have hmiddle : (l * 4 + m / 16) % 4 * 16 + (m % 16 * 16 + n / 4) / 16 = m := by omega
    have hlow : (m % 16 * 16 + n / 4) % 16 * 4 = n := by omega
    simp only [encode, hfirst, hsecond, hhigh, hmiddle, hlow, hp, hq, hr]
  · exact absurd h (by simp)

theorem encode_group? {p q r c : Char} {s : Bytes} (h : v.group? p q r c = some s) (more : Bytes) :
    v.encode (s ++ more) = p :: q :: r :: c :: v.encode more := by
  simp only [group?, Option.bind_eq_bind, Option.bind_eq_some_iff] at h
  obtain ⟨k, hk, l, hl, m, hm, n, hn, h⟩ := h
  obtain ⟨hk64, hp⟩ := symbol_number? hk
  obtain ⟨hl64, hq⟩ := symbol_number? hl
  obtain ⟨hm64, hr⟩ := symbol_number? hm
  obtain ⟨hn64, hc⟩ := symbol_number? hn
  obtain rfl := Option.some.inj h
  have hfirst : (k * 4 + l / 16).toUInt8.toNat = k * 4 + l / 16 := Utf8.toNat_byte (by omega)
  have hsecond : (l % 16 * 16 + m / 4).toUInt8.toNat = l % 16 * 16 + m / 4 :=
    Utf8.toNat_byte (by omega)
  have hthird : (m % 4 * 64 + n).toUInt8.toNat = m % 4 * 64 + n := Utf8.toNat_byte (by omega)
  have h0 : (k * 4 + l / 16) / 4 = k := by omega
  have h1 : (k * 4 + l / 16) % 4 * 16 + (l % 16 * 16 + m / 4) / 16 = l := by omega
  have h2 : (l % 16 * 16 + m / 4) % 16 * 4 + (m % 4 * 64 + n) / 64 = m := by omega
  have h3 : (m % 4 * 64 + n) % 64 = n := by omega
  simp only [List.cons_append, List.nil_append, encode, hfirst, hsecond, hthird, h0, h1, h2, h3, hp, hq,
    hr, hc]

/-- What is read is a written form. -/
theorem encode_of_decode? {t : List Char} {s : Bytes} (h : v.decode? t = some s) : v.encode s = t := by
  induction t using decode?.induct v generalizing s with
  | case1 =>
    obtain rfl := Option.some.inj h
    rfl
  | case2 c => exact absurd h (by simp [decode?])
  | case3 p q hpadded => exact absurd h (by simp [decode?, hpadded])
  | case4 p q hpadded =>
    have hlast : v.lastOne? p q = some s := by simpa [decode?, hpadded] using h
    simp [encode_lastOne? hlast, filling, hpadded]
  | case5 p q r hpadded => exact absurd h (by simp [decode?, hpadded])
  | case6 p q r hpadded =>
    have hlast : v.lastTwo? p q r = some s := by simpa [decode?, hpadded] using h
    simp [encode_lastTwo? hlast, filling, hpadded]
  | case7 p q c hfilled =>
    obtain ⟨hpadded, rfl⟩ := hfilled
    have hlast : v.lastOne? p q = some s := by simpa [decode?, hpadded] using h
    simp [encode_lastOne? hlast, filling, hpadded, List.replicate]
  | case8 p q r c hfilled hr =>
    obtain ⟨hpadded, rfl⟩ := hfilled
    have hlast : v.lastTwo? p q r = some s := by simpa [decode?, hpadded, hr] using h
    simp [encode_lastTwo? hlast, filling, hpadded]
  | case9 p q r c hfull =>
    have hgroup : v.group? p q r c = some s := by simpa [decode?, hfull] using h
    simpa [encode] using encode_group? hgroup []
  | case10 p q r c rest hne ih =>
    rw [decode?] at h
    · simp only [Option.bind_eq_bind, Option.bind_eq_some_iff] at h
      obtain ⟨bytes, hgroup, more, hmore, h⟩ := h
      obtain rfl := Option.some.inj h
      rw [encode_group? hgroup, ih hmore]
    · exact hne

/-- **Canonical forms**: a text is read as a byte sequence exactly if it is its written form. -/
theorem Proper.decode?_eq_some_iff (hv : v.Proper) {t : List Char} {s : Bytes} :
    v.decode? t = some s ↔ t = v.encode s := by
  constructor
  · intro h
    exact (encode_of_decode? h).symm
  · rintro rfl
    exact hv.decode?_encode s

/-- A last symbol that stands for more bits than its group needs, and not all of them zero. -/
def HasUnusedBits (v : Variant) (t : List Char) : Prop :=
  ∃ c ∈ t.getLast?, ∃ n ∈ v.number? c,
    t.length % 4 = 2 ∧ n % 16 ≠ 0 ∨ t.length % 4 = 3 ∧ n % 4 ≠ 0

/-- What no unpadded written form has: the filling, a single symbol in the last group, or bits that are not
used. -/
def Irregular (v : Variant) (t : List Char) : Prop :=
  '=' ∈ t ∨ t.length % 4 = 1 ∨ v.HasUnusedBits t

theorem length_encode_mod (hv : v.padded = false) (s : Bytes) : (v.encode s).length % 4 ≠ 1 := by
  induction s using encode.induct with
  | case1 => simp [encode]
  | case2 a => simp [encode, filling, hv]
  | case3 a b => simp [encode, filling, hv]
  | case4 a b c s ih =>
    simp only [encode, List.length_append, List.length_cons, List.length_nil]
    omega

theorem not_hasUnusedBits_encode (hv : v.Proper) (hpadded : v.padded = false) (s : Bytes) :
    ¬ v.HasUnusedBits (v.encode s) := by
  induction s using encode.induct with
  | case1 => simp [encode, HasUnusedBits]
  | case2 a =>
    have hsymbol := hv.number?_symbol (a.toNat % 4 * 16) (by omega)
    simp [encode, filling, hpadded, HasUnusedBits, hsymbol]
  | case3 a b =>
    have hsymbol := hv.number?_symbol (b.toNat % 16 * 4) (by omega)
    simp [encode, filling, hpadded, HasUnusedBits, hsymbol]
  | case4 a b c s ih =>
    rintro ⟨x, hx, n, hn, h⟩
    have hne : v.encode s ≠ [] := by
      intro hnil
      simp [encode, hnil] at h
    have hlast : x ∈ (v.encode s).getLast? := by
      rw [encode, List.getLast?_append, List.getLast?_eq_some_getLast hne, Option.some_or] at hx
      rwa [List.getLast?_eq_some_getLast hne]
    have hlength : (v.encode (a :: b :: c :: s)).length = (v.encode s).length + 4 := by
      simp [encode]
    rw [hlength, Nat.add_mod_right] at h
    exact ih ⟨x, hlast, n, hn, h⟩

/-- An unpadded variant reads no irregular text. -/
theorem Proper.decode?_irregular (hv : v.Proper) (hpadded : v.padded = false) {t : List Char}
    (h : v.Irregular t) : v.decode? t = none := by
  cases hread : v.decode? t with
  | none => rfl
  | some s =>
    obtain rfl := hv.decode?_eq_some_iff.1 hread
    rcases h with hfilling | hlength | hbits
    · rcases mem_encode hfilling with ⟨n, hn, heq⟩ | ⟨hpad, -⟩
      · exact absurd heq.symm (hv.symbol_ne_filling hn)
      · exact absurd hpad (by simp [hpadded])
    · exact absurd hlength (length_encode_mod hpadded s)
    · exact absurd hbits (not_hasUnusedBits_encode hv hpadded s)

end Variant

end FieldBridge.Base64
