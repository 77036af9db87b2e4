/-
  The shortest decimal that reads back.

  A binary floating-point number is written with the fewest significant digits that still identify it,
  and of those decimals the one nearest to it.

  1. **Data** — `Layout` gives the field widths of an interchange format; `Layout.decode` takes the
     fields apart; a finite number is `m · 2^q` (`Magnitude`).

  2. **Program** — a decimal identifies the number if it lies in the interval of reals that round to
     it: half a unit on either side, a quarter below a power of two, the ends included when `m` is
     even.  For 1, 2, 3, … digits `Magnitude.shortest` tests the two neighbours of the number on that
     decimal grid, in exact arithmetic on natural numbers.

  3. **Text** — `DecimalStyle.write` is positional within a range of exponents and scientific outside it.
-/

import FieldBridge.Number.Decimal

namespace FieldBridge

/-- The field widths of a binary interchange format. -/
structure Layout where
  exponentBits : Nat
  fractionBits : Nat
  /-- A count of digits that always suffices. -/
  enoughDigits : Nat

namespace Layout

/-- 32 bits. -/
def single : Layout := ⟨8, 23, 9⟩

/-- 64 bits. -/
def double : Layout := ⟨11, 52, 17⟩

end Layout

/-- A finite number other than zero, up to its sign: `m · 2^q`. -/
structure Magnitude where
  m : Nat
  q : Int
  /-- The next number below is only half as far away as the next one above. -/
  narrowBelow : Bool
  deriving Repr

/-- What the bits of a floating-point number say. -/
inductive FloatClass where
  | nan
  | infinite (negative : Bool)
  | zero (negative : Bool)
  | finite (negative : Bool) (magnitude : Magnitude)
  deriving Repr

namespace Layout

/-- Take the fields apart. -/
def decode (l : Layout) (bits : Nat) : FloatClass :=
  let fraction := bits % Nat.pow 2 l.fractionBits
  let exponent := bits / Nat.pow 2 l.fractionBits % Nat.pow 2 l.exponentBits
  let negative := bits / Nat.pow 2 (l.fractionBits + l.exponentBits) % 2 == 1
  let bias : Int := Nat.pow 2 (l.exponentBits - 1) - 1
  if exponent = Nat.pow 2 l.exponentBits - 1 then
    if fraction = 0 then .infinite negative else .nan
  else if exponent = 0 then
    if fraction = 0 then .zero negative
    else .finite negative ⟨fraction, 1 - bias - l.fractionBits, false⟩
  else
    .finite negative ⟨Nat.pow 2 l.fractionBits + fraction, exponent - bias - l.fractionBits,
      fraction = 0 && 1 < exponent⟩

end Layout

/-- A decimal `0.d₁d₂… · 10^point`. -/
structure Digits where
  digits : List Char
  point : Int
  deriving Repr, DecidableEq

namespace Magnitude

/-- The number, its lower and its upper end as numerators over one denominator. -/
structure Scaled where
  value : Nat
  low : Nat
  high : Nat
  unit : Nat
  /-- The ends round to the number as well. -/
  closed : Bool

/-- Four times the number and its ends are whole multiples of `2^q`. -/
def scaled (x : Magnitude) : Scaled :=
  let low := 4 * x.m - (if x.narrowBelow then 1 else 2)
  let up := Nat.pow 2 x.q.toNat
  ⟨4 * x.m * up, low * up, (4 * x.m + 2) * up, 4 * Nat.pow 2 (-x.q).toNat, x.m % 2 = 0⟩

/-- `10^e` as a fraction. -/
def tenPower (e : Int) : Nat × Nat := (Nat.pow 10 e.toNat, Nat.pow 10 (-e).toNat)

/-- `d · 10^e` lies in the interval. -/
def Scaled.contains (s : Scaled) (d : Nat) (e : Int) : Bool :=
  let (up, down) := tenPower e
  let x := d * up * s.unit
  if s.closed then s.low * down ≤ x && x ≤ s.high * down
  else s.low * down < x && x < s.high * down

/-- The least `p` from `start` on with `value < 10^p`, searched upwards. -/
def Scaled.pointFrom (s : Scaled) : (fuel : Nat) → Int → Int
  | 0, p => p
  | fuel + 1, p =>
    let (up, down) := tenPower p
    if s.value * down < up * s.unit then p else s.pointFrom fuel (p + 1)

/-- The `p` with `10^(p-1) ≤ value < 10^p`.  The bit length gives it up to two. -/
def point (x : Magnitude) : Int :=
  let bits : Int := x.q + (x.m.log2 : Nat)
  x.scaled.pointFrom 4 (bits * 30103 / 100000 - 1)

/-- The neighbour of the number with `n` digits that identifies it; of two the nearer, and the upper
one if they are equally near. -/
def neighbour? (x : Magnitude) (p : Int) (n : Nat) : Option (Nat × Int) :=
  let s := x.scaled
  let e := p - n
  let (up, down) := tenPower e
  let below := s.value * down / (up * s.unit)
  let rest := s.value * down % (up * s.unit)
  match s.contains below e, s.contains (below + 1) e with
  | true, true => some (if 2 * rest < up * s.unit then below else below + 1, e)
  | true, false => some (below, e)
  | false, true => some (below + 1, e)
  | false, false => none

/-- The first count of digits from `n` on that identifies the number. -/
def search (x : Magnitude) (p : Int) : (fuel n : Nat) → Nat × Int
  | 0, n => (x.neighbour? p n).getD (0, 0)
  | fuel + 1, n => match x.neighbour? p n with
    | some found => found
    | none => x.search p fuel (n + 1)

/-- The shortest decimal that identifies the number. -/
def shortest (l : Layout) (x : Magnitude) : Digits :=
  let (d, e) := x.search x.point (l.enoughDigits - 1) 1
  let s := Decimal.digits d
  ⟨(s.reverse.dropWhile (· = '0')).reverse, e + s.length⟩

end Magnitude

/-- How a decimal is laid out. -/
structure DecimalStyle where
  /-- Positional for `lowest ≤ point ≤ highest`, scientific otherwise. -/
  lowest : Int
  highest : Int

namespace DecimalStyle

/-- Positional from 0.0001 up to, but not including, 10^16. -/
def plain : DecimalStyle := ⟨-3, 16⟩

/-- Lay the digits out.  Positional notation has at least one digit on both sides of the point. -/
def write (f : DecimalStyle) (x : Digits) : List Char :=
  if f.lowest ≤ x.point ∧ x.point ≤ f.highest then
    if x.point ≤ 0 then "0.".toList ++ List.replicate (-x.point).toNat '0' ++ x.digits
    else
      let n := x.point.toNat
      let whole := x.digits.take n ++ List.replicate (n - x.digits.length) '0'
      let fraction := x.digits.drop n
      whole ++ '.' :: (if fraction = [] then ['0'] else fraction)
  else
    let mantissa := match x.digits with
      | [] => ['0']
      | [d] => [d]
      | d :: rest => d :: '.' :: rest
    mantissa ++ 'e' :: Decimal.signed (x.point - 1)

end DecimalStyle

/-- The text of a floating-point number of a layout, given by its bits. -/
def Layout.text (l : Layout) (bits : Nat) : List Char :=
  let signed (negative : Bool) (s : List Char) := if negative then '-' :: s else s
  match l.decode bits with
  | .nan => "NaN".toList
  | .infinite negative => signed negative "Infinity".toList
  | .zero negative => signed negative "0.0".toList
  | .finite negative x => signed negative (DecimalStyle.plain.write (x.shortest l))

end FieldBridge
