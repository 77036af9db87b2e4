/-
  Decimal numerals.

  Ports, partition counts, namespaces and intervals are natural numbers of a fixed width, written
  in base 10.  `digits` writes a number, `parse?` reads one that must not exceed a limit.

  1. **Program** — `parse limit s` takes an optional `+` and at least one digit, and walks the digits
     from the left.

  2. **Specification** — the error names the first fault on that walk: no character at all, a
     character that is no digit, or the digit at which the limit is exceeded.
-/

namespace FieldBridge.Decimal

/-- Why a text is no numeral within the limit. -/
inductive ParseError where
  /-- There is no character. -/
  | empty
  /-- A character is no digit, or only a sign stands there. -/
  | invalidDigit
  /-- The number exceeds the limit. -/
  | tooLarge
  deriving DecidableEq, Repr

/-- The wording of the error. -/
def ParseError.message : ParseError → String
  | .empty => "cannot parse integer from empty string"
  | .invalidDigit => "invalid digit found in string"
  | .tooLarge => "number too large to fit in target type"

/-- The digit of a number below 10. -/
def digit (n : Nat) : Char := Char.ofNat (48 + n)

/-- The number that a digit stands for. -/
def digit? (c : Char) : Option Nat :=
  if 48 ≤ c.toNat ∧ c.toNat < 58 then some (c.toNat - 48) else none

/-- The numeral of a number, without leading zeros. -/
def digits (n : Nat) : List Char :=
  if _h : n < 10 then [digit n] else digits (n / 10) ++ [digit (n % 10)]
termination_by n
decreasing_by omega

/-- The last `width` digits of a number, with leading zeros. -/
def fixed : (width n : Nat) → List Char
  | 0, _ => []
  | width + 1, n => fixed width (n / 10) ++ [digit (n % 10)]

/-- The numeral of a number with at least `width` digits. -/
def padded (width n : Nat) : List Char :=
  let s := digits n
  List.replicate (width - s.length) '0' ++ s

/-- The numeral of an integer: a sign only if it is negative. -/
def signed (n : Int) : List Char :=
  if n < 0 then '-' :: digits n.natAbs else digits n.natAbs

/-- Walk the digits; `acc` is the number read so far. -/
def parseFrom (limit acc : Nat) : List Char → Except ParseError Nat
  | [] => .ok acc
  | c :: s => match digit? c with
    | none => .error .invalidDigit
    | some d =>
      if limit < acc * 10 + d then .error .tooLarge else parseFrom limit (acc * 10 + d) s

/-- The number up to `limit` that the text writes. -/
def parse (limit : Nat) : List Char → Except ParseError Nat
  | [] => .error .empty
  | ['+'] => .error .invalidDigit
  | '+' :: s => parseFrom limit 0 s
  | s => parseFrom limit 0 s

/-- The greatest numbers of 16, 32 and 64 bits. -/
def limit16 : Nat := 0xFFFF
def limit32 : Nat := 0xFFFFFFFF
def limit64 : Nat := 0xFFFFFFFFFFFFFFFF

/-- A run of digits at the front, at most `most` of them: their number, their count and the rest. -/
def run (most : Nat) (s : List Char) : Nat × Nat × List Char :=
  go most 0 0 s
where
  go : Nat → Nat → Nat → List Char → Nat × Nat × List Char
    | 0, acc, count, s => (acc, count, s)
    | _ + 1, acc, count, [] => (acc, count, [])
    | most + 1, acc, count, c :: s => match digit? c with
      | some d => go most (acc * 10 + d) (count + 1) s
      | none => (acc, count, c :: s)

/-- The numeral of a natural number as a string. -/
def text (n : Nat) : String := String.ofList (digits n)

end FieldBridge.Decimal
