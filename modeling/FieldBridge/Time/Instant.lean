/-
  Instants and their text.

  An instant is a date and a time of day in universal time, down to nanoseconds.  A leap second is kept
  among the nanoseconds of the second that it follows, which are then 10^9 or more.  What is counted or
  read has leap seconds behind second 59 only, but an instant may have one behind any second: setting the
  nanoseconds of a time of day does not ask where it stands.

  1. **Text** — `Instant.text offset x` is `2024-02-29T23:59:60.5Z` without an offset mark of its own:
     the mark (`Z` or `+00:00`) is a parameter.  The fraction has no, three, six or nine digits, as few
     as show it whole.  A year outside 0..9999 has a sign.

  2. **Reading** — `Instant.parse?` is more generous: blanks in front of numbers and around marks,
     one or two digits per part, `t`, `T` or a space between date and time, any offset below a day,
     `Z` or `UTC` in either case, blanks behind.
-/

import FieldBridge.Text.Blank
import FieldBridge.Number.Decimal
import FieldBridge.Time.Date

namespace FieldBridge

/-- A time of day in universal time.  Where there are 10^9 nanoseconds or more it lies in the leap second
behind its second, whichever that is. -/
structure TimeOfDay where
  hour : Nat
  minute : Nat
  second : Nat
  nanos : Nat
  in_range : hour < 24 ∧ minute < 60 ∧ second < 60 ∧ nanos < 2000000000
  deriving DecidableEq

namespace TimeOfDay

instance : Inhabited TimeOfDay := ⟨0, 0, 0, 0, by decide⟩

/-- The time with these parts, if there is one; only second 59 has a leap second behind it. -/
def of? (hour minute second nanos : Nat) : Option TimeOfDay :=
  if h : (hour < 24 ∧ minute < 60 ∧ second < 60 ∧ nanos < 2000000000)
      ∧ (1000000000 ≤ nanos → second = 59)
  then some ⟨hour, minute, second, nanos, h.1⟩ else none

/-- The time with other nanoseconds, if so many are possible; any second can have a leap second behind it. -/
def withNanos? (t : TimeOfDay) (nanos : Nat) : Option TimeOfDay :=
  if h : nanos < 2000000000 then
    some { t with nanos, in_range := ⟨t.in_range.1, t.in_range.2.1, t.in_range.2.2.1, h⟩ }
  else none

end TimeOfDay

/-- An instant in universal time. -/
structure Instant where
  date : Date
  time : TimeOfDay
  deriving DecidableEq, Inhabited

namespace Instant

/-! ## Seconds since 1970 -/

/-- The instant that many seconds after 1970-01-01T00:00:00, plus nanoseconds. -/
def ofUnix? (seconds : Int) (nanos : Nat) : Option Instant := do
  let date ← Date.ofDays? (seconds / 86400)
  let s := (seconds % 86400).toNat
  let time ← TimeOfDay.of? (s / 3600) (s / 60 % 60) (s % 60) nanos
  some ⟨date, time⟩

/-- The seconds since 1970-01-01T00:00:00, without the nanoseconds. -/
def seconds (x : Instant) : Int :=
  x.date.toDays * 86400 + x.time.hour * 3600 + x.time.minute * 60 + x.time.second

/-! ## Text -/

/-- A year: four digits, or a sign and at least four digits. -/
def yearText (year : Int) : List Char :=
  if 0 ≤ year ∧ year ≤ 9999 then Decimal.fixed 4 year.toNat
  else (if year < 0 then '-' else '+') :: Decimal.padded 4 year.natAbs

/-- The fraction of a second in as few groups of three digits as show it whole. -/
def fractionText (nanos : Nat) : List Char :=
  if nanos = 0 then []
  else if nanos % 1000000 = 0 then '.' :: Decimal.fixed 3 (nanos / 1000000)
  else if nanos % 1000 = 0 then '.' :: Decimal.fixed 6 (nanos / 1000)
  else '.' :: Decimal.fixed 9 nanos

/-- Year, month and day. -/
def dateText (d : Date) : List Char :=
  yearText d.year ++ '-' :: Decimal.fixed 2 d.month ++ '-' :: Decimal.fixed 2 d.day

/-- Hour, minute and second; a leap second is second 60. -/
def clockText (t : TimeOfDay) : List Char :=
  let second := if 1000000000 ≤ t.nanos then t.second + 1 else t.second
  Decimal.fixed 2 t.hour ++ ':' :: Decimal.fixed 2 t.minute ++ ':' :: Decimal.fixed 2 second

/-- The written form, closed by the mark for universal time. -/
def text (mark : List Char) (x : Instant) : List Char :=
  dateText x.date ++ 'T' :: clockText x.time ++ fractionText (x.time.nanos % 1000000000) ++ mark

/-- The mark used in messages. -/
def zulu : List Char := ['Z']

/-- The mark used in displayed values. -/
def zeroOffset : List Char := "+00:00".toList

/-- The written form cut to milliseconds. -/
def millisText (x : Instant) : List Char :=
  dateText x.date ++ 'T' :: clockText x.time
    ++ '.' :: Decimal.fixed 3 (x.time.nanos % 1000000000 / 1000000) ++ zulu

/-! ## Reading -/

/-- What is read, and the rest of the text. -/
abbrev Scan (α : Type) := List Char → Option (α × List Char)

/-- A number of at most `most` digits, after blanks. -/
def scanNumber? (most : Nat) : Scan Nat := fun s =>
  match Decimal.run most (Text.trimLeft s) with
  | (_, 0, _) => none
  | (n, _, rest) => some (n, rest)

/-- A year: after a sign any count of digits, else at most four. -/
def scanYear? : Scan Int := fun s =>
  match Text.trimLeft s with
  | '-' :: rest => match Decimal.run rest.length rest with
    | (_, 0, _) => none
    | (n, _, rest) => some (-n, rest)
  | '+' :: rest => match Decimal.run rest.length rest with
    | (_, 0, _) => none
    | (n, _, rest) => some (n, rest)
  | rest => match Decimal.run 4 rest with
    | (_, 0, _) => none
    | (n, _, rest) => some (n, rest)

/-- The mark `c`, after blanks. -/
def scanMark? (c : Char) (s : List Char) : Option (List Char) :=
  match Text.trimLeft s with
  | d :: rest => if d = c then some rest else none
  | [] => none

/-- Year, month and day, checked against the calendar later. -/
def scanDate? : Scan (Int × Nat × Nat) := fun s => do
  let (year, s) ← scanYear? s
  let s ← scanMark? '-' s
  let (month, s) ← scanNumber? 2 s
  let s ← scanMark? '-' s
  let (day, s) ← scanNumber? 2 s
  some ((year, month, day), s)

/-- The nanoseconds written behind a point; digits after the ninth are dropped. -/
def scanFraction? : Scan Nat
  | '.' :: s => match Decimal.run 9 s with
    | (_, 0, _) => none
    | (n, count, rest) =>
      some (n * Nat.pow 10 (9 - count), rest.dropWhile fun c => (Decimal.digit? c).isSome)
  | s => some (0, s)

/-- Hour, minute, second and nanoseconds; second 60 is the leap second. -/
def scanTime? : Scan (Nat × Nat × Nat × Nat) := fun s => do
  let (hour, s) ← scanNumber? 2 s
  let s ← scanMark? ':' s
  let (minute, s) ← scanNumber? 2 s
  let s ← scanMark? ':' s
  let (second, s) ← scanNumber? 2 s
  let (nanos, s) ← scanFraction? s
  if second = 60 then some ((hour, minute, 59, 1000000000 + nanos), s)
  else some ((hour, minute, second, nanos), s)

/-- A number of exactly two digits. -/
def scanTwo? : Scan Nat
  | a :: b :: s => match Decimal.digit? a, Decimal.digit? b with
    | some x, some y => some (x * 10 + y, s)
    | _, _ => none
  | _ => none

/-- The sign of an offset. -/
def scanSign? : Scan Bool
  | '+' :: s => some (false, s)
  | '-' :: s => some (true, s)
  | '\u2212' :: s => some (true, s)
  | _ => none

/-- The minutes by which a local time is ahead of universal time. -/
def scanOffset? : Scan Int := fun s =>
  match s with
  | 'Z' :: rest => some (0, rest)
  | 'z' :: rest => some (0, rest)
  | _ =>
    if (s.take 3).map Text.lower = ['u', 't', 'c'] then some (0, s.drop 3)
    else do
      let (behind, s) ← scanSign? s
      let (hours, s) ← scanTwo? s
      let (minutes, s) ← scanTwo? (s.dropWhile fun c => c = ':' || Text.isBlank c)
      if 60 ≤ minutes ∨ 24 ≤ hours then none
      else
        let total : Int := hours * 60 + minutes
        some (if behind then -total else total, s)

/-- Move a local date and minute of the day to universal time. -/
def toUniversal? (date : Date) (minuteOfDay : Nat) (offset : Int) : Option (Date × Nat) :=
  let m : Int := minuteOfDay - offset
  if m < 0 then date.previous?.map (·, (m + 1440).toNat)
  else if 1440 ≤ m then date.next?.map (·, (m - 1440).toNat)
  else some (date, m.toNat)

/-- The instant that a text writes. -/
def parse? (s : List Char) : Option Instant := do
  let ((year, month, day), s) ← scanDate? s
  let s ← match s with
    | 't' :: s => some s
    | 'T' :: s => some s
    | ' ' :: s => some s
    | _ => none
  let ((hour, minute, second, nanos), s) ← scanTime? s
  let (offset, s) ← scanOffset? (Text.trimLeft s)
  if Text.trimLeft s ≠ [] then none
  let date ← Date.of? year month day
  let local_ ← TimeOfDay.of? hour minute second nanos
  let (date, m) ← toUniversal? date (local_.hour * 60 + local_.minute) offset
  let time ← TimeOfDay.of? (m / 60) (m % 60) second nanos
  some ⟨date, time⟩

end Instant

end FieldBridge
