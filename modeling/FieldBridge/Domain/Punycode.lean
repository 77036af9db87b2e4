/-
  Names in ASCII letters.

  A label with characters beyond ASCII is also written in ASCII alone: first its ASCII characters and a
  hyphen, if it has any, and then a number for each of the others, in ascending order of the characters.
  A number says how far to go from the last insertion, running through the text once for every
  character of the repertoire in between; its digits are letters and decimal digits, and their weights
  adapt to the numbers before.

  `Punycode.decode?` reads such a text.
-/

namespace FieldBridge.Domain.Punycode

/-- The value of a digit: letters are 0 to 25, decimal digits 26 to 35. -/
def digit? (c : Char) : Option Nat :=
  if 'a' ≤ c ∧ c ≤ 'z' then some (c.toNat - 97)
  else if '0' ≤ c ∧ c ≤ '9' then some (c.toNat - 22)
  else none

/-- The base of the numbers. -/
def base : Nat := 36

/-- A digit below the threshold is the last one of its number. -/
def threshold (bias position : Nat) : Nat :=
  if position ≤ bias then 1 else if bias + 26 ≤ position then 26 else position - bias

/-- Divide by 35 until at most 455 is left; gives the count of divisions in steps of the base. -/
def settle (delta steps : Nat) : Nat × Nat :=
  if 455 < delta then settle (delta / (base - 1)) (steps + base) else (delta, steps)
termination_by delta
decreasing_by
  show delta / 35 < delta
  omega

/-- The bias behind a number, for a text of the given length. -/
def adapt (delta length : Nat) (isFirst : Bool) : Nat :=
  let delta := if isFirst then delta / 700 else delta / 2
  let (delta, steps) := settle (delta + delta / length) 0
  steps + base * delta / (delta + 38)

/-- Numbers stay below this bound. -/
def limit : Nat := 0x100000000

/-- A text that is being read. -/
structure Reading where
  /-- What has been put together. -/
  text : List Char
  /-- The character of the last insertion. -/
  code : Nat := 128
  bias : Nat := 72
  /-- Where the number under way began to count. -/
  start : Nat := 0
  /-- How far it has counted. -/
  index : Nat := 0
  /-- The weight of its next digit. -/
  weight : Nat := 1
  /-- The position of its next digit, in steps of the base. -/
  position : Nat := base

namespace Reading

/-- The number under way is complete: insert its character. -/
def insert? (r : Reading) : Option Reading :=
  let length := r.text.length + 1
  let code := r.code + r.index / length
  let place := r.index % length
  if code.isValidChar then
    some {
      text := r.text.take place ++ Char.ofNat code :: r.text.drop place
      code
      bias := adapt (r.index - r.start) length (r.start = 0)
      start := place + 1
      index := place + 1 }
  else none

/-- Take a digit. -/
def take? (r : Reading) (c : Char) : Option Reading := do
  let d ← digit? c
  let t := threshold r.bias r.position
  let r := { r with index := r.index + d * r.weight }
  if limit ≤ r.index then none
  else if d < t then r.insert?
  else
    let weight := r.weight * (base - t)
    if limit ≤ weight then none
    else some { r with weight, position := r.position + base }

/-- No number is under way. -/
def isComplete (r : Reading) : Bool := r.position = base

end Reading

/-- The ASCII characters in front of the last hyphen, and what follows it.  A hyphen at the front divides
nothing. -/
def divide (s : List Char) : List Char × List Char :=
  let digits := (s.reverse.takeWhile (· ≠ '-')).reverse
  let plain := s.take (s.length - digits.length - 1)
  if plain.isEmpty then ([], s) else (plain, digits)

/-- The text that is written in small letters and digits. -/
def decode? (s : List Char) : Option (List Char) :=
  let (plain, digits) := divide s
  if plain.all (·.toNat < 128) then
    ((digits.foldlM Reading.take? { text := plain }).filter Reading.isComplete).map (·.text)
  else none

end FieldBridge.Domain.Punycode
