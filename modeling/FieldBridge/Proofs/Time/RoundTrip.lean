/-
  The text of an instant read back.

  1. **Parts** — each part of the text is read as what it was written for, and what follows it is left
     over: the year with or without a sign, two-digit parts, and a fraction of three, six or nine digits.

  2. **Leap seconds** — a leap second is written as the second after the one that it follows.  Behind
     second 59 that is second 60, which is read back as a leap second (`scanTime?_clock`).  Behind any other
     second the text is that of an ordinary second: the instant and the one it is `carried` to have the same
     text (`text_carried`).

  3. **Whole texts** — what the text of an instant says in universal time is the instant carried
     (`parse?_text`), and that is the instant itself exactly if its leap second is where one belongs
     (`carried_eq_self_iff`).
-/

import FieldBridge.Proofs.Number.Decimal
import FieldBridge.Proofs.Text.Utf8
import FieldBridge.Time.Instant

namespace FieldBridge

/-! ## Leap seconds -/

namespace TimeOfDay

/-- A leap second stands behind second 59 only. -/
def Regular (t : TimeOfDay) : Prop := 1000000000 ≤ t.nanos → t.second = 59

instance (t : TimeOfDay) : Decidable t.Regular := inferInstanceAs (Decidable (_ → _))

/-- The time as it is written: a leap second behind another second than 59 is the next second. -/
def carried (t : TimeOfDay) : TimeOfDay :=
  if h : 1000000000 ≤ t.nanos ∧ t.second ≠ 59 then
    { t with
      second := t.second + 1
      nanos := t.nanos - 1000000000
      in_range := by
        have hrange := t.in_range
        omega }
  else t

theorem carried_of_regular {t : TimeOfDay} (h : t.Regular) : t.carried = t :=
  dif_neg fun hleap => hleap.2 (h hleap.1)

theorem regular_carried (t : TimeOfDay) : t.carried.Regular := by
  obtain ⟨-, -, -, hnanos⟩ := t.in_range
  unfold carried
  split
  · intro hleap
    -- fewer than 10^9 nanoseconds are left of fewer than 2 * 10^9
    have hless : t.nanos - 1000000000 < 1000000000 := by omega
    exact absurd hleap (Nat.not_le.2 hless)
  · rename_i h
    intro hleap
    exact Decidable.not_not.1 fun hsecond => h ⟨hleap, hsecond⟩

/-- Just the regular times are left as they are. -/
theorem carried_eq_self_iff (t : TimeOfDay) : t.carried = t ↔ t.Regular := by
  constructor
  · intro h
    rw [← h]
    exact t.regular_carried
  · exact carried_of_regular

/-- Every time of day is one without nanoseconds whose nanoseconds have been set. -/
theorem withNanos?_of? (t : TimeOfDay) :
    (of? t.hour t.minute t.second 0).bind (·.withNanos? t.nanos) = some t := by
  obtain ⟨hhour, hminute, hsecond, hnanos⟩ := t.in_range
  have hwhole : of? t.hour t.minute t.second 0 = some ⟨t.hour, t.minute, t.second, 0, by omega⟩ :=
    dif_pos ⟨by omega, by omega⟩
  rw [hwhole, Option.bind_some]
  exact dif_pos hnanos

end TimeOfDay

namespace Instant

open Decimal (AllDigits NoDigit)

/-- The instant as it is written. -/
def carried (x : Instant) : Instant := { x with time := x.time.carried }

/-- Just the instants with a regular time are left as they are. -/
theorem carried_eq_self_iff (x : Instant) : x.carried = x ↔ x.time.Regular := by
  rw [← x.time.carried_eq_self_iff]
  exact ⟨congrArg Instant.time, fun h => congrArg (Instant.mk x.date) h⟩

/-- **Texts are carried**: an instant and the one that it is carried to are written alike. -/
theorem text_carried (mark : List Char) (x : Instant) : x.carried.text mark = x.text mark := by
  unfold carried TimeOfDay.carried
  split
  · rename_i h
    obtain ⟨-, -, -, hnanos⟩ := x.time.in_range
    have hless : ¬ 1000000000 ≤ x.time.nanos - 1000000000 := by omega
    have hrest : (x.time.nanos - 1000000000) % 1000000000 = x.time.nanos % 1000000000 :=
      (Nat.mod_eq_sub_mod h.1).symm
    simp only [text, clockText, hrest, if_neg hless, if_pos h.1]
  · rfl

/-! ## Numbers and marks -/

/-- A digit is no blank. -/
theorem isBlank_of_digit {c : Char} (h : (Decimal.digit? c).isSome) : Text.isBlank c = false := by
  unfold Decimal.digit? at h
  split at h
  · rename_i hc
    simp only [Text.isBlank, Bool.or_eq_false_iff, Bool.and_eq_false_iff, beq_eq_false_iff_ne,
      decide_eq_false_iff_not]
    omega
  · exact absurd h (by simp)

theorem trimLeft_append {s : List Char} (hs : AllDigits s) (hlength : 1 ≤ s.length)
    (rest : List Char) : Text.trimLeft (s ++ rest) = s ++ rest := by
  cases s with
  | nil => exact absurd hlength (by simp)
  | cons c s => exact Text.trimLeft_cons_of_not (isBlank_of_digit (hs c List.mem_cons_self)) _

/-- Digits are read as the number they write, up to a character that is no digit. -/
theorem scanNumber?_append {s rest : List Char} {most : Nat} (hs : AllDigits s)
    (hlength : 1 ≤ s.length) (hmost : s.length ≤ most) (hrest : most = s.length ∨ NoDigit rest) :
    scanNumber? most (s ++ rest) = some (Decimal.value s, rest) := by
  obtain ⟨k, hk⟩ := Nat.exists_eq_add_of_le' hlength
  rw [scanNumber?, trimLeft_append hs hlength, Decimal.run_append hs hmost hrest, hk]
  rfl

/-- A number of two digits. -/
theorem scanNumber?_two {n : Nat} (h : n < 100) (rest : List Char) :
    scanNumber? 2 (Decimal.fixed 2 n ++ rest) = some (n, rest) := by
  have hlength := Decimal.length_fixed 2 n
  rw [scanNumber?_append (Decimal.allDigits_fixed 2 n) (by omega) (by omega) (Or.inl hlength.symm),
    Decimal.value_fixed h]

theorem scanMark?_cons {c : Char} (h : Text.isBlank c = false) (rest : List Char) :
    scanMark? c (c :: rest) = some rest := by
  rw [scanMark?, Text.trimLeft_cons_of_not h]
  exact if_pos rfl

/-! ## Dates -/

/-- The digits behind a sign are all read. -/
theorem run_signed {s rest : List Char} (hs : AllDigits s) (hrest : NoDigit rest) :
    Decimal.run (s ++ rest).length (s ++ rest) = (Decimal.value s, s.length, rest) :=
  Decimal.run_append hs (by simp) (Or.inr hrest)

/-- A text that starts with a digit starts with neither a sign nor a blank. -/
theorem scanYear?_of_digit {c : Char} (hc : (Decimal.digit? c).isSome) (s : List Char) :
    scanYear? (c :: s) = match Decimal.run 4 (c :: s) with
      | (_, 0, _) => none
      | (n, _, rest) => some (n, rest) := by
  rw [scanYear?, Text.trimLeft_cons_of_not (isBlank_of_digit hc)]
  split
  · rename_i heq
    rw [(List.cons.inj heq).1] at hc
    exact absurd hc (by decide)
  · rename_i heq
    rw [(List.cons.inj heq).1] at hc
    exact absurd hc (by decide)
  · rfl

/-- A year is read as it was written, up to a character that is no digit. -/
theorem scanYear?_yearText (year : Int) {rest : List Char} (hrest : NoDigit rest) :
    scanYear? (yearText year ++ rest) = some (year, rest) := by
  have hpadded := Decimal.allDigits_padded 4 year.natAbs
  have hlength := Decimal.one_le_length_padded 4 year.natAbs
  unfold yearText
  split
  · -- four digits and no sign
    rename_i h
    have hs := Decimal.allDigits_fixed 4 year.toNat
    have hfour := Decimal.length_fixed 4 year.toNat
    have hvalue : Decimal.value (Decimal.fixed 4 year.toNat) = year.toNat :=
      Decimal.value_fixed (by show year.toNat < 10000; omega)
    have hrun : Decimal.run 4 (Decimal.fixed 4 year.toNat ++ rest) = (year.toNat, 4, rest) := by
      rw [Decimal.run_append hs (Nat.le_of_eq hfour) (Or.inl hfour.symm), hvalue, hfour]
    obtain ⟨c, s, hcons⟩ := List.exists_cons_of_length_eq_add_one hfour
    rw [hcons] at hs hrun ⊢
    rw [List.cons_append] at hrun ⊢
    rw [scanYear?_of_digit (hs c List.mem_cons_self), hrun]
    simp only [Option.some.injEq, Prod.mk.injEq, and_true]
    omega
  · -- a sign and at least four digits
    obtain ⟨k, hk⟩ := Nat.exists_eq_add_of_le' hlength
    by_cases hneg : year < 0
    · rw [if_pos hneg, List.cons_append, scanYear?, Text.trimLeft_cons_of_not (by decide)]
      simp only [run_signed hpadded hrest, Decimal.value_padded, hk, Option.some.injEq,
        Prod.mk.injEq, and_true]
      omega
    · rw [if_neg hneg, List.cons_append, scanYear?, Text.trimLeft_cons_of_not (by decide)]
      simp only [run_signed hpadded hrest, Decimal.value_padded, hk, Option.some.injEq,
        Prod.mk.injEq, and_true]
      omega

theorem day_lt_hundred (d : Date) : d.month < 100 ∧ d.day < 100 := by
  obtain ⟨-, -, -, hmonth, -, hday⟩ := d.exists_day
  have hmost : Calendar.daysIn d.year d.month ≤ 31 := by
    unfold Calendar.daysIn
    split
    · split <;> omega
    · split <;> omega
  omega

theorem noDigit_cons {c : Char} (h : Decimal.digit? c = none) (rest : List Char) :
    NoDigit (c :: rest) := by
  intro x hx
  rw [← Option.some.inj hx]
  exact h

/-- A date is read as it was written. -/
theorem scanDate?_dateText (d : Date) (rest : List Char) :
    scanDate? (dateText d ++ rest) = some ((d.year, d.month, d.day), rest) := by
  obtain ⟨hmonth, hday⟩ := day_lt_hundred d
  simp only [dateText, List.append_assoc, List.cons_append, scanDate?]
  rw [scanYear?_yearText d.year (noDigit_cons (by decide) _)]
  simp only [Option.bind_eq_bind, Option.bind_some, scanMark?_cons (show Text.isBlank '-' = false by decide),
    scanNumber?_two hmonth, scanNumber?_two hday]

/-! ## Times of day -/

/-- The digits of a fraction are read as so many nanoseconds. -/
theorem scanFraction?_fixed {width n : Nat} (hwidth : 1 ≤ width) (hmost : width ≤ 9)
    (h : n < Nat.pow 10 width) :
    scanFraction? ('.' :: Decimal.fixed width n ++ zulu)
      = some (n * Nat.pow 10 (9 - width), zulu) := by
  have hlength := Decimal.length_fixed width n
  have hrun := Decimal.run_append (Decimal.allDigits_fixed width n) (by omega : _ ≤ 9)
    (Or.inr (noDigit_cons (by decide) []) : _ ∨ NoDigit zulu)
  obtain ⟨k, rfl⟩ := Nat.exists_eq_add_of_le' hwidth
  rw [List.cons_append, scanFraction?, hrun, hlength, Decimal.value_fixed h]
  rfl

/-- A fraction is read as the nanoseconds that it was written for. -/
theorem scanFraction?_fractionText {nanos : Nat} (h : nanos < 1000000000) :
    scanFraction? (fractionText nanos ++ zulu) = some (nanos, zulu) := by
  unfold fractionText
  split
  · rename_i hzero
    rw [hzero]
    rfl
  split
  · rename_i hmod
    have hlt : nanos / 1000000 < Nat.pow 10 3 := by
      show nanos / 1000000 < 1000
      omega
    rw [scanFraction?_fixed (by decide) (by decide) hlt]
    show some (nanos / 1000000 * 1000000, zulu) = some (nanos, zulu)
    rw [Nat.div_mul_cancel (Nat.dvd_of_mod_eq_zero hmod)]
  split
  · rename_i hmod
    have hlt : nanos / 1000 < Nat.pow 10 6 := by
      show nanos / 1000 < 1000000
      omega
    rw [scanFraction?_fixed (by decide) (by decide) hlt]
    show some (nanos / 1000 * 1000, zulu) = some (nanos, zulu)
    rw [Nat.div_mul_cancel (Nat.dvd_of_mod_eq_zero hmod)]
  · rw [scanFraction?_fixed (by decide) (by decide) h]
    show some (nanos * 1, zulu) = some (nanos, zulu)
    rw [Nat.mul_one]

/-- **Leap seconds**: a regular time of day is read as it was written, its leap second among the
nanoseconds. -/
theorem scanTime?_clock {t : TimeOfDay} (hleap : t.Regular) :
    scanTime? (clockText t ++ (fractionText (t.nanos % 1000000000) ++ zulu))
      = some ((t.hour, t.minute, t.second, t.nanos), zulu) := by
  obtain ⟨hhour, hminute, hsecond, hnanos⟩ := t.in_range
  have hcolon : Text.isBlank ':' = false := by decide
  have hfraction := scanFraction?_fractionText (Nat.mod_lt t.nanos (by decide : 0 < 1000000000))
  simp only [clockText, scanTime?, List.append_assoc, List.cons_append]
  rw [scanNumber?_two (by omega)]
  simp only [Option.bind_eq_bind, Option.bind_some, scanMark?_cons hcolon]
  rw [scanNumber?_two (by omega)]
  simp only [Option.bind_some, scanMark?_cons hcolon]
  by_cases h : 1000000000 ≤ t.nanos
  · have h59 := hleap h
    have hsum : 1000000000 + t.nanos % 1000000000 = t.nanos := by omega
    rw [if_pos h, scanNumber?_two (by omega)]
    simp only [Option.bind_some, hfraction, h59, if_true, hsum]
  · rw [if_neg h, scanNumber?_two (by omega)]
    simp only [Option.bind_some, hfraction]
    rw [if_neg (by omega), Nat.mod_eq_of_lt (by omega)]

/-! ## Whole texts -/

/-- An instant with a regular time is what its text in universal time says. -/
theorem parse?_text_of_regular {x : Instant} (hregular : x.time.Regular) :
    parse? (x.text zulu) = some x := by
  obtain ⟨date, time⟩ := x
  have hdate : Date.of? date.year date.month date.day = some date := dif_pos date.exists_day
  have htime : TimeOfDay.of? time.hour time.minute time.second time.nanos = some time :=
    dif_pos ⟨time.in_range, hregular⟩
  have hhour : (time.hour * 60 + time.minute) / 60 = time.hour := by
    have h := time.in_range.2.1
    omega
  have hminute : (time.hour * 60 + time.minute) % 60 = time.minute := by
    have h := time.in_range.2.1
    omega
  have hday : toUniversal? date (time.hour * 60 + time.minute) 0
      = some (date, time.hour * 60 + time.minute) := by
    have h := time.in_range.1
    have h' := time.in_range.2.1
    rw [toUniversal?, if_neg (by omega), if_neg (by omega), Int.sub_zero, Int.toNat_natCast]
  have htext : (Instant.mk date time).text zulu
      = dateText date ++ 'T' :: (clockText time ++ (fractionText (time.nanos % 1000000000) ++ zulu)) := by
    simp [text]
  rw [htext, parse?, scanDate?_dateText]
  simp only [Option.bind_eq_bind, Option.bind_some, scanTime?_clock hregular]
  have hmark : scanOffset? (Text.trimLeft zulu) = some (0, []) := rfl
  rw [hmark]
  simp [hdate, htime, hday, hhour, hminute]

/-- **Round trip**: the text of an instant says in universal time the instant as it is written. -/
theorem parse?_text (x : Instant) : parse? (x.text zulu) = some x.carried := by
  rw [← x.text_carried]
  exact parse?_text_of_regular x.time.regular_carried

/-! ## Lengths -/

theorem length_dateText_le (d : Date) : (dateText d).length ≤ 13 := by
  obtain ⟨hfirst, hlast, -⟩ := d.exists_day
  have hyear : (yearText d.year).length ≤ 7 := by
    unfold yearText
    split
    · rw [Decimal.length_fixed]
      decide
    · have habs : d.year.natAbs < Nat.pow 10 6 := by
        unfold Calendar.firstYear at hfirst
        unfold Calendar.lastYear at hlast
        show d.year.natAbs < 1000000
        omega
      have hdigits := Decimal.length_digits_le (by decide) habs
      simp only [Decimal.padded, List.length_cons, List.length_append, List.length_replicate]
      omega
  simp only [dateText, List.length_append, List.length_cons, Decimal.length_fixed]
  omega

theorem length_fractionText_le (nanos : Nat) : (fractionText nanos).length ≤ 10 := by
  unfold fractionText
  split
  · decide
  split
  · simp [Decimal.length_fixed]
  split
  · simp [Decimal.length_fixed]
  · simp [Decimal.length_fixed]

/-- The text of an instant is short. -/
theorem length_text_le (x : Instant) : (x.text zulu).length ≤ 33 := by
  have hdate := length_dateText_le x.date
  have hfraction := length_fractionText_le (x.time.nanos % 1000000000)
  simp only [text, clockText, zulu, List.length_append, List.length_cons, List.length_nil,
    Decimal.length_fixed]
  omega

end Instant

end FieldBridge
