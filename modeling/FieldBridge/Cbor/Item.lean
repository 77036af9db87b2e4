/-
  CBOR items.

  An item is a head (three bits of kind, an argument) and what the argument counts: bytes, elements
  or pairs.  Strings and containers may also be open-ended and closed by a break.

  1. **Writing** — `Item.write` uses definite lengths and the shortest head throughout.

  2. **Interpreting** — a reader looks through tags at what they enclose (`untagged`).
     `Item.text?` takes a text in one piece or in chunks, `Item.shortText?` only a definite one of
     bounded length, `Item.fields?` takes a record apart: a map with each named key exactly once, where
     other keys are ignored if what they hold can be skipped.
-/

import FieldBridge.Text.Utf8

namespace FieldBridge

namespace Cbor

/-- A data item. -/
inductive Item where
  | unsigned (value : Nat)
  /-- Stands for `-1 - value`. -/
  | negative (value : Nat)
  | bytes (chunked : Bool) (value : Bytes)
  | text (chunked : Bool) (value : List Char)
  | array (elements : List Item)
  | map (pairs : List (Item × Item))
  | tagged (tag : Nat) (item : Item)
  | simple (value : Nat)
  | float (width : Nat) (bits : Nat)
  deriving Inhabited

/-! ## Writing -/

/-- `width` bytes of a number, most significant first. -/
def bigEndian : (width n : Nat) → Bytes
  | 0, _ => []
  | width + 1, n => bigEndian width (n / 256) ++ [(n % 256).toUInt8]

/-- The shortest head of a kind with an argument below 2^64. -/
def head (kind argument : Nat) : Bytes :=
  if argument < 24 then [(kind * 32 + argument).toUInt8]
  else if argument < 256 then (kind * 32 + 24).toUInt8 :: bigEndian 1 argument
  else if argument < 65536 then (kind * 32 + 25).toUInt8 :: bigEndian 2 argument
  else if argument < 4294967296 then (kind * 32 + 26).toUInt8 :: bigEndian 4 argument
  else (kind * 32 + 27).toUInt8 :: bigEndian 8 argument

namespace Item

mutual

/-- The written form of an item. -/
def write : Item → Bytes
  | .unsigned n => head 0 n
  | .negative n => head 1 n
  | .bytes _ b => head 2 b.length ++ b
  | .text _ s =>
    let b := Utf8.encode s
    head 3 b.length ++ b
  | .array elements => head 4 elements.length ++ writeElements elements
  | .map pairs => head 5 pairs.length ++ writePairs pairs
  | .tagged tag item => head 6 tag ++ write item
  | .simple n => head 7 n
  | .float width bits =>
    (7 * 32 + (if width = 2 then 25 else if width = 4 then 26 else 27)).toUInt8
      :: bigEndian width bits

def writeElements : List Item → Bytes
  | [] => []
  | v :: rest => write v ++ writeElements rest

def writePairs : List (Item × Item) → Bytes
  | [] => []
  | (k, v) :: rest => write k ++ write v ++ writePairs rest

end

/-- A text in one piece. -/
def ofText (s : String) : Item := .text false s.toList

/-- A record with named fields. -/
def record (fields : List (String × Item)) : Item :=
  .map (fields.map fun f => (ofText f.1, f.2))

/-! ## Interpreting -/

/-- What the tags in front of an item enclose. -/
def untagged : Item → Item
  | .tagged _ item => untagged item
  | item => item

/-- Longer texts and byte strings are no keys. -/
def shortLimit : Nat := 4096

/-- A text, in one piece or in chunks. -/
def text? (i : Item) : Option String :=
  match i.untagged with
  | .text _ s => some (String.ofList s)
  | _ => none

/-- A text in one piece of bounded length. -/
def shortText? (i : Item) : Option String :=
  match i.untagged with
  | .text false s => if (Utf8.encode s).length ≤ shortLimit then some (String.ofList s) else none
  | _ => none

/-- The bytes of a key: a text or a byte string in one piece of bounded length. -/
def key? (i : Item) : Option Bytes :=
  match i.untagged with
  | .text false s =>
    let b := Utf8.encode s
    if b.length ≤ shortLimit then some b else none
  | .bytes false b => if b.length ≤ shortLimit then some b else none
  | _ => none

/-- How deeply containers may be nested, tags within skipped items included. -/
def depthLimit : Nat := 256

/-- The number that bytes write, most significant first. -/
def magnitude (b : Bytes) : Nat := b.foldl (fun n byte => n * 256 + byte.toNat) 0

/-- The magnitude of a number that is given by at most 16 bytes in one piece: tag 2 stands for the
number, tag 3 for `-1` minus it. -/
def bigNumber? (tag : Nat) (item : Item) : Option Nat :=
  match item with
  | .bytes false b =>
    if (tag = 2 ∨ tag = 3) ∧ b.length ≤ 16 then some (magnitude b) else none
  | _ => none

/-- The bound on the magnitude of negative numbers. -/
def negativeLimit : Nat := 0x80000000000000000000000000000000

mutual

/-- An item that a reader can skip, with so many levels left.  A tag counts as a level unless it makes
a number of the bytes behind it, which must not be too small. -/
def canSkip : (depth : Nat) → Item → Bool
  | _, .unsigned _ => true
  | _, .negative _ => true
  | _, .bytes _ _ => true
  | _, .text _ _ => true
  | _, .float _ _ => true
  | _, .simple n => 20 ≤ n && n ≤ 23
  | depth, .tagged tag item => match bigNumber? tag item with
    | some n => tag = 2 || n < negativeLimit
    | none => match depth with
      | 0 => false
      | depth + 1 => canSkip depth item
  | 0, _ => false
  | depth + 1, .array elements => canSkipAll depth elements
  | depth + 1, .map pairs => canSkipPairs depth pairs

def canSkipAll : (depth : Nat) → List Item → Bool
  | _, [] => true
  | depth, v :: rest => canSkip depth v && canSkipAll depth rest

def canSkipPairs : (depth : Nat) → List (Item × Item) → Bool
  | _, [] => true
  | depth, (k, v) :: rest => canSkip depth k && canSkip depth v && canSkipPairs depth rest

end

/-- The keys of a map as bytes. -/
def keyed? : List (Item × Item) → Option (List (Bytes × Item))
  | [] => some []
  | (k, v) :: rest => do
    let k ← key? k
    let rest ← keyed? rest
    some ((k, v) :: rest)

/-- The value of the only pair with a key. -/
def member? (pairs : List (Bytes × Item)) (name : String) : Option Item :=
  match pairs.filter fun p => p.1 = Utf8.ofString name with
  | [p] => some p.2
  | _ => none

/-- The values of the named fields of a record within `level` others, in the order of the names. -/
def fields? (level : Nat) (names : List String) (i : Item) : Option (List Item) :=
  match i.untagged with
  | .map pairs => do
    let pairs ← keyed? pairs
    let known := names.map Utf8.ofString
    if pairs.all fun p => known.contains p.1 || canSkip (depthLimit - (level + 1)) p.2 then
      names.mapM (member? pairs)
    else none
  | _ => none

end Item

end Cbor

end FieldBridge
