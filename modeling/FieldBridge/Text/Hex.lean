/-
  Hexadecimal digits.

  Status codes, globally unique identifiers, escapes and byte strings are written in base 16.
  `fixed` writes a number with a fixed count of digits, `value?` reads digits of either case.
-/

import FieldBridge.Text.Utf8

namespace FieldBridge.Hex

/-- The digit of a number below 16, in lower case. -/
def digit (n : Nat) : Char :=
  if n < 10 then Char.ofNat (48 + n) else Char.ofNat (87 + n)

/-- The digit of a number below 16, in upper case. -/
def capital (n : Nat) : Char :=
  if n < 10 then Char.ofNat (48 + n) else Char.ofNat (55 + n)

/-- The number that a digit of either case stands for. -/
def digit? (c : Char) : Option Nat :=
  let n := c.toNat
  if 48 ≤ n ∧ n < 58 then some (n - 48)
  else if 97 ≤ n ∧ n < 103 then some (n - 87)
  else if 65 ≤ n ∧ n < 71 then some (n - 55)
  else none

/-- The last `width` digits of `n`, most significant first, each written by `symbol`. -/
def fixedWith (symbol : Nat → Char) : (width n : Nat) → List Char
  | 0, _ => []
  | width + 1, n => fixedWith symbol width (n / 16) ++ [symbol (n % 16)]

/-- The last `width` digits of `n` in lower case. -/
def fixed (width n : Nat) : List Char := fixedWith digit width n

/-- The number written by the digits, with `acc` in front of them. -/
def valueFrom? (acc : Nat) : List Char → Option Nat
  | [] => some acc
  | c :: s => match digit? c with
    | some d => valueFrom? (acc * 16 + d) s
    | none => none

/-- The number written by the digits; `none` if a character is no digit. -/
def value? (s : List Char) : Option Nat := valueFrom? 0 s

/-- Two lower-case digits for each byte. -/
def ofBytes (s : Bytes) : List Char := s.flatMap fun b => fixed 2 b.toNat

/-- The bytes written by pairs of digits, with `done` read before, last first. -/
def bytesFrom? (done : Bytes) : List Char → Option Bytes
  | [] => some done.reverse
  | [_] => none
  | a :: b :: s => match digit? a, digit? b with
    | some h, some l => bytesFrom? ((h * 16 + l).toUInt8 :: done) s
    | _, _ => none

/-- The bytes written by pairs of digits. -/
def bytes? (s : List Char) : Option Bytes := bytesFrom? [] s

theorem length_fixedWith (symbol : Nat → Char) (width n : Nat) :
    (fixedWith symbol width n).length = width := by
  induction width generalizing n with
  | zero => rfl
  | succ w ih => simp [fixedWith, ih]

end FieldBridge.Hex
