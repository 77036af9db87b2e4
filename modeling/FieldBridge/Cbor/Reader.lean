/-
  Reading CBOR.

  The reader takes one head after another.  The containers and tags that are still open lie on a
  stack, so items may be nested to any depth; a finished item goes into the innermost of them.
  `Cbor.read?` reads one item and gives back the bytes behind it.
-/

import FieldBridge.Cbor.Item

namespace FieldBridge.Cbor

/-- The argument of a head. -/
inductive Argument where
  /-- A number and the count of bytes behind the first that hold it. -/
  | value (n width : Nat)
  | openEnded

/-- The number written by `width` bytes, and the rest. -/
def takeNumber? : (width acc : Nat) → Bytes → Option (Nat × Bytes)
  | 0, acc, s => some (acc, s)
  | _ + 1, _, [] => none
  | width + 1, acc, b :: s => takeNumber? width (acc * 256 + b.toNat) s

/-- Kind, argument and the rest; `none` if the input is cut off or the head is reserved. -/
def takeHead? : Bytes → Option (Nat × Argument × Bytes)
  | [] => none
  | b :: s =>
    let kind := b.toNat / 32
    let low := b.toNat % 32
    if low < 24 then some (kind, .value low 0, s)
    else if low = 31 then some (kind, .openEnded, s)
    else if low < 28 then
      let width := Nat.pow 2 (low - 24)
      (takeNumber? width 0 s).map fun (n, rest) => (kind, .value n width, rest)
    else none

/-- The first `n` bytes and the rest; `none` if there are fewer. -/
def takeBytes? (n : Nat) (s : Bytes) : Option (Bytes × Bytes) :=
  let front := s.take n
  if front.length = n then some (front, s.drop n) else none

/-- The chunks of an open-ended string of a kind, up to the break that closes it.  A chunk may be
open-ended itself; `depth` counts the breaks still to come.  Every round takes a byte. -/
def takeChunks? (kind : Nat) : (fuel depth : Nat) → List Bytes → Bytes → Option (List Bytes × Bytes)
  | 0, _, _, _ => none
  | fuel + 1, depth, done, s => match takeHead? s with
    | none => none
    | some (k, argument, rest) => match argument with
      | .openEnded =>
        if k = 7 then
          if depth ≤ 1 then some (done.reverse, rest) else takeChunks? kind fuel (depth - 1) done rest
        else if k = kind then takeChunks? kind fuel (depth + 1) done rest
        else none
      | .value n _ =>
        if k = kind then match takeBytes? n rest with
          | some (chunk, rest) => takeChunks? kind fuel depth (chunk :: done) rest
          | none => none
        else none

/-- Something open whose next part is being read; the parts before are kept last first.  `left` counts
the parts still to come, or is `none` where a break closes. -/
inductive Frame where
  | array (left : Option Nat) (done : List Item)
  | key (left : Option Nat) (done : List (Item × Item))
  | value (left : Option Nat) (done : List (Item × Item)) (key : Item)
  | tag (tag : Nat)

/-- What the reader holds after an item. -/
inductive Progress where
  | finished (item : Item)
  | unfinished (stack : List Frame)

/-- An item has been read: it goes into the innermost open container, which it may complete. -/
def accept (v : Item) : List Frame → Progress
  | [] => .finished v
  | .tag t :: stack => accept (.tagged t v) stack
  | .array none done :: stack => .unfinished (.array none (v :: done) :: stack)
  | .array (some left) done :: stack =>
    if left ≤ 1 then accept (.array (v :: done).reverse) stack
    else .unfinished (.array (some (left - 1)) (v :: done) :: stack)
  | .key left done :: stack => .unfinished (.value left done v :: stack)
  | .value none done key :: stack => .unfinished (.key none ((key, v) :: done) :: stack)
  | .value (some left) done key :: stack =>
    if left ≤ 1 then accept (.map ((key, v) :: done).reverse) stack
    else .unfinished (.key (some (left - 1)) ((key, v) :: done) :: stack)

/-- A break: it closes the innermost open-ended container. -/
def closeOpen? : List Frame → Option Progress
  | .array none done :: stack => some (accept (.array done.reverse) stack)
  | .key none done :: stack => some (accept (.map done.reverse) stack)
  | _ => none

/-- One head and what belongs to it. -/
def step? (stack : List Frame) (s : Bytes) : Option (Progress × Bytes) := do
  let (kind, argument, s) ← takeHead? s
  match kind, argument with
  | 0, .value n _ => some (accept (.unsigned n) stack, s)
  | 1, .value n _ => some (accept (.negative n) stack, s)
  | 2, .value n _ =>
    let (b, s) ← takeBytes? n s
    some (accept (.bytes false b) stack, s)
  | 2, .openEnded =>
    let (chunks, s) ← takeChunks? 2 (s.length + 1) 1 [] s
    some (accept (.bytes true chunks.flatten) stack, s)
  | 3, .value n _ =>
    let (b, s) ← takeBytes? n s
    let t ← Utf8.decode? b
    some (accept (.text false t) stack, s)
  | 3, .openEnded =>
    let (chunks, s) ← takeChunks? 3 (s.length + 1) 1 [] s
    let t ← chunks.mapM Utf8.decode?
    some (accept (.text true t.flatten) stack, s)
  | 4, .value 0 _ => some (accept (.array []) stack, s)
  | 4, .value n _ => some (.unfinished (.array (some n) [] :: stack), s)
  | 4, .openEnded => some (.unfinished (.array none [] :: stack), s)
  | 5, .value 0 _ => some (accept (.map []) stack, s)
  | 5, .value n _ => some (.unfinished (.key (some n) [] :: stack), s)
  | 5, .openEnded => some (.unfinished (.key none [] :: stack), s)
  | 6, .value t _ => some (.unfinished (.tag t :: stack), s)
  | 7, .value n width =>
    if width ≤ 1 then some (accept (.simple n) stack, s)
    else some (accept (.float width n) stack, s)
  | 7, .openEnded => (closeOpen? stack).map (·, s)
  | _, _ => none

/-- Take heads until the outermost item is complete.  Every round takes a byte. -/
def readFrom? : (fuel : Nat) → List Frame → Bytes → Option (Item × Bytes)
  | 0, _, _ => none
  | fuel + 1, stack, s => match step? stack s with
    | none => none
    | some (.finished item, rest) => some (item, rest)
    | some (.unfinished stack, rest) => readFrom? fuel stack rest

/-- The item at the front of the input, and the bytes behind it. -/
def read? (s : Bytes) : Option (Item × Bytes) := readFrom? (s.length + 1) [] s

end FieldBridge.Cbor
