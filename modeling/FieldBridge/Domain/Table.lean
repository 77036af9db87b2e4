/-
  Tables of characters.

  A table assigns values to spans of character numbers.  It is written as words: a span (`A` or `A-B`,
  in hexadecimal) and, behind `=`, what the table says of it.  The spans ascend and do not overlap.

  1. **Reading** — `Table.read` takes a written table; a word that says nothing readable is left out.

  2. **Looking up** — `Table.find?` halves the table until the span is found that holds a number.
-/

import FieldBridge.Text.Blank
import FieldBridge.Text.Hex

namespace FieldBridge.Domain

/-- A span of numbers and what a table says of it. -/
structure Span (α : Type) where
  first : Nat
  last : Nat
  value : α
  deriving Repr, DecidableEq

/-- Spans in ascending order. -/
abbrev Table (α : Type) := Array (Span α)

namespace Table

/-! ## Reading -/

/-- The words of a text, last first, and the unfinished word, last character first. -/
def addToWords (state : List (List Char) × List Char) (c : Char) : List (List Char) × List Char :=
  let (words, word) := state
  if c = ' ' ∨ c = '\n' then (if word.isEmpty then words else word.reverse :: words, [])
  else (words, c :: word)

/-- The words of a text, which blanks and line breaks divide. -/
def words (text : String) : List (List Char) :=
  ((text.toList ++ [' ']).foldl addToWords ([], [])).1.reverse

/-- The ends of a span. -/
def ends? (s : List Char) : Option (Nat × Nat) :=
  match Text.cut? '-' s with
  | some (first, last) => do
    let first ← Hex.value? first
    let last ← Hex.value? last
    some (first, last)
  | none => (Hex.value? s).map fun n => (n, n)

/-- A span whose value is read by `value?` from what stands behind the `=`, if there is one. -/
def span? {α : Type} (value? : Option (List Char) → Option α) (word : List Char) :
    Option (Span α) := do
  let (span, written) := match Text.cut? '=' word with
    | some (span, written) => (span, some written)
    | none => (word, none)
  let (first, last) ← ends? span
  let value ← value? written
  some ⟨first, last, value⟩

/-- The table that a text writes. -/
def read {α : Type} (value? : Option (List Char) → Option α) (text : String) : Table α :=
  ((words text).filterMap (span? value?)).toArray

/-! ## Looking up -/

/-- The halving loop, between two places of the table. -/
def search {α : Type} (t : Table α) (n lo hi : Nat) : Option (Span α) :=
  if lo < hi then
    let mid := (lo + hi) / 2
    match t[mid]? with
    | none => none
    | some s =>
      if n < s.first then search t n lo mid
      else if s.last < n then search t n (mid + 1) hi
      else some s
  else none
termination_by hi - lo
decreasing_by
  · show (lo + hi) / 2 - lo < hi - lo
    omega
  · show hi - ((lo + hi) / 2 + 1) < hi - lo
    omega

/-- The span that holds a number. -/
def find? {α : Type} (t : Table α) (n : Nat) : Option (Span α) := search t n 0 t.size

/-- What the table says of a character. -/
def value? {α : Type} (t : Table α) (c : Char) : Option α := (t.find? c.toNat).map (·.value)

/-- The table has something to say of a character. -/
def mentions {α : Type} (t : Table α) (c : Char) : Bool := (t.find? c.toNat).isSome

end Table

end FieldBridge.Domain
