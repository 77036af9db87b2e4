/-
  Globally unique identifiers.

  A 128-bit number.  It is written as 32 lower-case hexadecimal digits in groups of 8, 4, 4, 4 and 12,
  joined by hyphens.  Reading also takes capitals, the digits without hyphens, the hyphenated form in
  braces, and the hyphenated form behind `urn:uuid:`, itself in small or capital letters.
-/

import FieldBridge.Text.Blank
import FieldBridge.Text.Hex

namespace FieldBridge

/-- How many numbers of 128 bits there are. -/
abbrev Guid.count : Nat := 0x100000000000000000000000000000000

/-- A 128-bit identifier. -/
structure Guid where
  value : Nat
  value_lt : value < Guid.count
  deriving DecidableEq

namespace Guid

instance : Inhabited Guid := ⟨0, by decide⟩

/-- The identifier with the given number, if it has at most 128 bits. -/
def ofNat? (n : Nat) : Option Guid := if h : n < count then some ⟨n, h⟩ else none

/-- The 32 digits. -/
def digits (g : Guid) : List Char := Hex.fixed 32 g.value

/-- Groups of 8, 4, 4, 4 and 12 digits joined by hyphens. -/
def hyphenate (s : List Char) : List Char :=
  s.take 8 ++ '-' :: (s.drop 8).take 4 ++ '-' :: (s.drop 12).take 4 ++ '-' :: (s.drop 16).take 4
    ++ '-' :: s.drop 20

/-- The written form. -/
def text (g : Guid) : List Char := hyphenate g.digits

/-- The digits of a hyphenated form. -/
def unhyphenate? (s : List Char) : Option (List Char) :=
  let d := s.filter (· != '-')
  if s.length = 36 ∧ d.length = 32 ∧ hyphenate d = s then some d else none

/-- The identifier with these 32 digits. -/
def ofDigits? (s : List Char) : Option Guid :=
  if s.length = 32 then (Hex.value? s).bind ofNat? else none

/-- What stands in front of the hyphenated form when it is written as a name. -/
def urn : List Char := "urn:uuid:".toList

/-- The identifier that a text writes, in any of the four forms. -/
def parse? (s : List Char) : Option Guid :=
  match s with
  | '{' :: rest =>
    if rest.getLast? = some '}' then (unhyphenate? rest.dropLast).bind ofDigits? else none
  | _ =>
    if (s.take 9).map Text.lower = urn then (unhyphenate? (s.drop 9)).bind ofDigits?
    else if s.length = 32 then ofDigits? s
    else (unhyphenate? s).bind ofDigits?

/-- The `n`-th identifier of the random kind: version 4, variant `10`, and the rest of the bits taken
from `n`, so that different numbers below 2^110 give different identifiers. -/
def random (n : Nat) : Guid :=
  let low := 0x8000000000000000 + n % 0x4000000000000000
  let high := n / 0x4000000000000000 % 0x1000000000000 * 0x10000 + 0x4000
  ⟨(high * 0x10000000000000000 + low) % count, Nat.mod_lt _ (by decide)⟩

end Guid

end FieldBridge
