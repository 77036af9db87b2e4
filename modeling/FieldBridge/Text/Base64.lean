/-
  Base 64.

  Three bytes become four symbols of six bits.  A last group of one or two bytes becomes two or three
  symbols, filled up with `=` where the variant is padded.

  1. **Program** — `Variant.encode` writes, `Variant.decode?` reads.  Two variants are in use: opaque
     node identifiers are `standard`, the key level of a topic is `urlSafe`.

  2. **Specification** — reading is strict: padding exactly where the variant writes it, and the
     unused bits of the last symbol zero.  So a byte sequence has one written form.
-/

import FieldBridge.Text.Utf8

namespace FieldBridge.Base64

/-- The two symbols that variants choose, and whether the last group is filled up with `=`. -/
structure Variant where
  symbol62 : Char
  symbol63 : Char
  padded : Bool

/-- The usual alphabet, padded. -/
def standard : Variant := ⟨'+', '/', true⟩

/-- The alphabet whose symbols need no escape in a topic level, without padding. -/
def urlSafe : Variant := ⟨'-', '_', false⟩

namespace Variant

/-- The symbol of a number below 64. -/
def symbol (v : Variant) (n : Nat) : Char :=
  if n < 26 then Char.ofNat (65 + n)
  else if n < 52 then Char.ofNat (71 + n)
  else if n < 62 then Char.ofNat (n - 4)
  else if n = 62 then v.symbol62
  else v.symbol63

/-- The number that a symbol stands for. -/
def number? (v : Variant) (c : Char) : Option Nat :=
  let n := c.toNat
  if 65 ≤ n ∧ n < 91 then some (n - 65)
  else if 97 ≤ n ∧ n < 123 then some (n - 71)
  else if 48 ≤ n ∧ n < 58 then some (n + 4)
  else if c = v.symbol62 then some 62
  else if c = v.symbol63 then some 63
  else none

/-- What fills up a last group that lacks `n` symbols. -/
def filling (v : Variant) (n : Nat) : List Char := if v.padded then List.replicate n '=' else []

/-- The written form of a byte sequence. -/
def encode (v : Variant) : Bytes → List Char
  | [] => []
  | [a] =>
    let a := a.toNat
    [v.symbol (a / 4), v.symbol (a % 4 * 16)] ++ v.filling 2
  | [a, b] =>
    let a := a.toNat
    let b := b.toNat
    [v.symbol (a / 4), v.symbol (a % 4 * 16 + b / 16), v.symbol (b % 16 * 4)] ++ v.filling 1
  | a :: b :: c :: s =>
    let a := a.toNat
    let b := b.toNat
    let c := c.toNat
    [v.symbol (a / 4), v.symbol (a % 4 * 16 + b / 16), v.symbol (b % 16 * 4 + c / 64),
      v.symbol (c % 64)] ++ v.encode s

/-- One byte from a last group of two symbols. -/
def lastOne? (v : Variant) (p q : Char) : Option Bytes := do
  let p ← v.number? p
  let q ← v.number? q
  if q % 16 = 0 then some [(p * 4 + q / 16).toUInt8] else none

/-- Two bytes from a last group of three symbols. -/
def lastTwo? (v : Variant) (p q r : Char) : Option Bytes := do
  let p ← v.number? p
  let q ← v.number? q
  let r ← v.number? r
  if r % 4 = 0 then some [(p * 4 + q / 16).toUInt8, (q % 16 * 16 + r / 4).toUInt8] else none

/-- Three bytes from a full group. -/
def group? (v : Variant) (p q r s : Char) : Option Bytes := do
  let p ← v.number? p
  let q ← v.number? q
  let r ← v.number? r
  let s ← v.number? s
  some [(p * 4 + q / 16).toUInt8, (q % 16 * 16 + r / 4).toUInt8, (r % 4 * 64 + s).toUInt8]

/-- The byte sequence whose written form this is; `none` if there is none. -/
def decode? (v : Variant) : List Char → Option Bytes
  | [] => some []
  | [_] => none
  | [p, q] => if v.padded then none else v.lastOne? p q
  | [p, q, r] => if v.padded then none else v.lastTwo? p q r
  | [p, q, r, s] =>
    if v.padded ∧ s = '=' then
      if r = '=' then v.lastOne? p q else v.lastTwo? p q r
    else v.group? p q r s
  | p :: q :: r :: s :: rest => do
    let bytes ← v.group? p q r s
    let more ← v.decode? rest
    some (bytes ++ more)

end Variant

end FieldBridge.Base64
