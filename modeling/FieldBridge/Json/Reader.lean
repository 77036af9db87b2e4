/-
  Reading JSON.

  The reader is a pushdown machine fed one token at a time: the containers that are still open lie on
  a stack, so values may be nested to any depth.  Lexer and reader together form one machine over the
  bytes of a text, and `Json.read?` runs it from the first byte to the last.
-/

import FieldBridge.Json.Token

namespace FieldBridge.Json

/-- A container whose next part is being read.  The parts before are kept last first. -/
inductive Frame where
  | array (done : List Json)
  | member (done : List (Bytes × Json)) (key : Bytes)

/-- What may come next. -/
inductive Reading where
  | value (stack : List Frame)
  /-- Behind `[`: a value or `]`. -/
  | firstElement (stack : List Frame)
  /-- Behind an element: `,` or `]`. -/
  | nextElement (done : List Json) (stack : List Frame)
  /-- Behind an opening brace: a key or the closing one. -/
  | firstKey (stack : List Frame)
  /-- Behind a comma: a key. -/
  | nextKey (done : List (Bytes × Json)) (stack : List Frame)
  | colon (done : List (Bytes × Json)) (key : Bytes) (stack : List Frame)
  /-- Behind a member: `,` or the closing brace. -/
  | nextMember (done : List (Bytes × Json)) (stack : List Frame)
  /-- The whole value has been read. -/
  | complete (value : Json)

/-- A value has been read: it goes into the innermost open container. -/
def Reading.accept (v : Json) : List Frame → Reading
  | [] => .complete v
  | .array done :: stack => .nextElement (v :: done) stack
  | .member done key :: stack => .nextMember ((key, v) :: done) stack

/-- A token at the place of a value. -/
def Reading.begin? (stack : List Frame) : Token → Option Reading
  | .openBracket => some (.firstElement stack)
  | .openBrace => some (.firstKey stack)
  | .atom v => some (accept v stack)
  | .string written => some (accept (.string written) stack)
  | _ => none

/-- One token; `none` if it cannot stand here. -/
def Reading.step? : Reading → Token → Option Reading
  | .value stack, t => begin? stack t
  | .firstElement stack, .closeBracket => some (accept (.array []) stack)
  | .firstElement stack, t => begin? (.array [] :: stack) t
  | .nextElement done stack, .comma => some (.value (.array done :: stack))
  | .nextElement done stack, .closeBracket => some (accept (.array done.reverse) stack)
  | .firstKey stack, .closeBrace => some (accept (.object []) stack)
  | .firstKey stack, .string key => some (.colon [] key stack)
  | .nextKey done stack, .string key => some (.colon done key stack)
  | .colon done key stack, .colon => some (.value (.member done key :: stack))
  | .nextMember done stack, .comma => some (.nextKey done stack)
  | .nextMember done stack, .closeBrace => some (accept (.object done.reverse) stack)
  | _, _ => none

/-- Lexer and reader together. -/
structure Machine where
  lexing : Lexing
  reading : Reading

/-- Before the first byte. -/
def Machine.start : Machine := ⟨.between, .value []⟩

/-- One byte. -/
def Machine.step? (m : Machine) (b : UInt8) : Option Machine := do
  let (tokens, lexing) ← m.lexing.step? b
  let reading ← tokens.foldlM Reading.step? m.reading
  some ⟨lexing, reading⟩

/-- Several bytes. -/
def Machine.run? (m : Machine) (s : Bytes) : Option Machine := s.foldlM Machine.step? m

/-- The value, if the input may end here. -/
def Machine.finish? (m : Machine) : Option Json := do
  let tokens ← m.lexing.finish?
  match ← tokens.foldlM Reading.step? m.reading with
  | .complete v => some v
  | _ => none

/-- The value that a text writes, blanks around it allowed. -/
def read? (s : Bytes) : Option Json := (Machine.start.run? s).bind Machine.finish?

end FieldBridge.Json
