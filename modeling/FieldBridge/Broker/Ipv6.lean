/-
  IPv6 addresses in brackets.

  Eight pieces of 16 bits, written in hexadecimal and separated by `:`.  `::` stands for one or more
  zero pieces and may occur once; the last two pieces may be written as four decimal numbers.

  `text` writes the address with its longest run of at least two zero pieces, the first of several,
  as `::`.
-/

import FieldBridge.Text.Blank
import FieldBridge.Text.Hex
import FieldBridge.Number.Decimal

namespace FieldBridge.Ipv6

/-- A piece: at most four digits at the front; the number, the digits and the rest. -/
def takePiece (s : List Char) : Nat × List Char × List Char :=
  let d := (s.takeWhile fun c => (Hex.digit? c).isSome).take 4
  ((Hex.value? d).getD 0, d, s.drop d.length)

/-- One of the four decimal numbers: up to 255 and without leading zeros. -/
def decimalByte? (s : List Char) : Option Nat :=
  match s with
  | [] => none
  | ['0'] => some 0
  | '0' :: _ => none
  | _ => if s.length ≤ 3 then (Decimal.parse 255 s).toOption.filter fun _ => s.head? ≠ some '+'
         else none

/-- The last two pieces written as four decimal numbers. -/
def decimalTail? (s : List Char) : Option (List Nat) :=
  match (Text.pieces '.' s).map decimalByte? with
  | [some a, some b, some c, some d] => some [a * 256 + b, c * 256 + d]
  | _ => none

/-- What has been read: the pieces in front of `::` once that has been seen, and the pieces since. -/
structure Reading where
  front : Option (List Nat) := none
  pieces : List Nat := []

namespace Reading

/-- The places taken so far; `::` takes one. -/
def places (r : Reading) : Nat :=
  match r.front with
  | none => r.pieces.length
  | some f => f.length + 1 + r.pieces.length

/-- The eight pieces, with zeros put in for `::`. -/
def finish? (r : Reading) : Option (List Nat) :=
  match r.front with
  | none => if r.pieces.length = 8 then some r.pieces else none
  | some f => some (f ++ List.replicate (8 - f.length - r.pieces.length) 0 ++ r.pieces)

/-- Read the rest of an address; every round takes at least one character. -/
def read? : (fuel : Nat) → Reading → List Char → Option (List Nat)
  | _, r, [] => r.finish?
  | 0, _, _ => none
  | fuel + 1, r, ':' :: s =>
    if 8 ≤ r.places then none
    else match r.front with
      | some _ => none
      | none => read? fuel ⟨some r.pieces, []⟩ s
  | fuel + 1, r, s =>
    if 8 ≤ r.places then none
    else
      let (n, digits, rest) := takePiece s
      match rest with
      | [] => read? fuel { r with pieces := r.pieces ++ [n] } []
      | ':' :: more =>
        if digits = [] ∨ more = [] then none
        else read? fuel { r with pieces := r.pieces ++ [n] } more
      | '.' :: _ =>
        if digits = [] ∨ 6 < r.places then none
        else (decimalTail? s).bind fun p => { r with pieces := r.pieces ++ p : Reading }.finish?
      | _ => none

end Reading

/-- The eight pieces of an address. -/
def parse? (s : List Char) : Option (List Nat) :=
  match s with
  | ':' :: ':' :: rest => Reading.read? rest.length ⟨some [], []⟩ rest
  | ':' :: _ => none
  | _ => if s.length < 2 then none else Reading.read? s.length {} s

/-- The first longest run of zeros: where it starts and how long it is. -/
def longestZeros (pieces : List Nat) : Nat × Nat :=
  (List.range 8).foldl
    (fun best i =>
      let n := ((pieces.drop i).takeWhile (· = 0)).length
      if best.2 < n then (i, n) else best) (0, 0)

/-- The written form, without brackets. -/
def text (pieces : List Nat) : List Char :=
  let hex (n : Nat) : List Char :=
    let s := (Hex.fixed 4 n).dropWhile (· = '0')
    if s = [] then ['0'] else s
  let join (l : List Nat) : List Char := [':'].intercalate (l.map hex)
  let (start, count) := longestZeros pieces
  if count < 2 then join pieces
  else join (pieces.take start) ++ ':' :: ':' :: join (pieces.drop (start + count))

end FieldBridge.Ipv6
