/-
  Domain names.

  A domain name is a sequence of labels with points between them.  `Domain.labels?` takes a name as a
  person writes it and gives its labels in the one form in which they are compared:

  1. **Form** — every character is replaced by what it stands for, and the text is composed.  Only then
     is it divided: some characters stand for points.

  2. **Labels in ASCII letters** — a label that begins with `xn--` stands for the text that the rest of it
     encodes.  That text must hold a character beyond ASCII and must have been in the one form already.

  3. **Soundness** — a label does not begin with a mark, its joiners stand where they may, and if some
     label of the name is written from right to left, every label can be read in one direction.

  Labels may be empty.
-/

import FieldBridge.Domain.Canonical
import FieldBridge.Domain.Direction
import FieldBridge.Domain.Joiner
import FieldBridge.Domain.Mapping
import FieldBridge.Domain.Punycode

namespace FieldBridge.Domain

/-- How a label begins that is written in ASCII letters. -/
def asciiMark : List Char := "xn--".toList

/-- The character is beyond ASCII. -/
def isWide (c : Char) : Bool := 128 ≤ c.toNat

/-- The most characters behind the mark of a label in ASCII letters. -/
def longestEncoded : Nat := 2000

/-- The most characters of a label with characters beyond ASCII, however it is written. -/
def longestWide : Nat := 1000

/-- The text that encoded letters stand for. -/
def decoded? (s : List Char) : Option (List Char) :=
  if longestEncoded < s.length then none
  else (Punycode.decode? s).filter fun t => t.any isWide && t.all isKept && compose t = t

/-- The text that a label stands for. -/
def label? (s : List Char) : Option (List Char) :=
  (match Text.after? asciiMark s with
    | some rest => decoded? rest
    | none => some s).filter fun t => !(t.any isWide) || t.length ≤ longestWide

/-- The label does not begin with a mark, and its joiners stand where they may. -/
def isSound (label : List Char) : Bool := !(label.head?.any isMark) && joinersFit [] label

/-- The labels agree in their directions. -/
def areOneWay (labels : List (List Char)) : Bool :=
  !(labels.any (·.any turns)) || labels.all isOneWay

/-- The labels of a name. -/
def labels? (name : List Char) : Option (List (List Char)) := do
  let s ← replaced? name
  let labels ← (Text.pieces '.' (compose s)).mapM label?
  if labels.all isSound && areOneWay labels then some labels else none

end FieldBridge.Domain
