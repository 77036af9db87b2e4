/-
  Tokens of JSON.

  The lexer is a machine fed one byte at a time.  Between tokens it skips blanks; within a string, a
  number or a word it collects bytes.  A number ends where a byte comes that cannot continue it, and
  that byte is then read as the start of what follows.

  A string only has to be well formed: no control characters, known escapes, four hexadecimal digits
  behind `\u`.
-/

import FieldBridge.Json.Value

namespace FieldBridge.Json

/-- A token. -/
inductive Token where
  | openBracket
  | closeBracket
  | openBrace
  | closeBrace
  | comma
  | colon
  /-- A value without parts. -/
  | atom (value : Json)
  | string (written : Bytes)

/-- How far a number has got. -/
inductive Digits where
  /-- A sign; a digit must follow. -/
  | sign
  /-- A leading zero, which no digit follows. -/
  | zero
  | whole
  /-- A point; a digit must follow. -/
  | point
  | fraction
  /-- The mark of an exponent; a sign or digit must follow. -/
  | mark
  /-- The sign of an exponent; a digit must follow. -/
  | markSign
  | exponent
  deriving DecidableEq, Repr

/-- Where the lexer stands.  Collected bytes are kept last first. -/
inductive Lexing where
  | between
  | string (done : Bytes)
  /-- Behind a backslash. -/
  | escape (done : Bytes)
  /-- So many hexadecimal digits are still to come. -/
  | digits (left : Nat) (done : Bytes)
  | number (state : Digits) (done : Bytes)
  /-- The rest of a word that stands for a value. -/
  | word (rest : Bytes) (value : Json)

def isBlank (b : UInt8) : Bool := b = 0x20 || b = 0x0A || b = 0x09 || b = 0x0D

def isDigit (b : UInt8) : Bool := 0x30 ≤ b && b < 0x3A

/-- The state of a number after one more byte; `none` if the byte cannot continue it. -/
def Digits.next? (d : Digits) (b : UInt8) : Option Digits :=
  match d with
  | .sign => if b = 0x30 then some .zero else if isDigit b then some .whole else none
  | .zero =>
    if b = 0x2E then some .point else if b = 0x65 ∨ b = 0x45 then some .mark else none
  | .whole =>
    if isDigit b then some .whole
    else if b = 0x2E then some .point else if b = 0x65 ∨ b = 0x45 then some .mark else none
  | .point => if isDigit b then some .fraction else none
  | .fraction =>
    if isDigit b then some .fraction else if b = 0x65 ∨ b = 0x45 then some .mark else none
  | .mark =>
    if isDigit b then some .exponent
    else if b = 0x2B ∨ b = 0x2D then some .markSign else none
  | .markSign => if isDigit b then some .exponent else none
  | .exponent => if isDigit b then some .exponent else none

/-- The number may end here. -/
def Digits.complete : Digits → Bool
  | .zero | .whole | .fraction | .exponent => true
  | .sign | .point | .mark | .markSign => false

/-- The first byte of a token or a blank: the tokens it completes and the state behind it. -/
def Lexing.start? (b : UInt8) : Option (List Token × Lexing) :=
  if isBlank b then some ([], .between)
  else if b = 0x5B then some ([.openBracket], .between)
  else if b = 0x5D then some ([.closeBracket], .between)
  else if b = 0x7B then some ([.openBrace], .between)
  else if b = 0x7D then some ([.closeBrace], .between)
  else if b = 0x2C then some ([.comma], .between)
  else if b = 0x3A then some ([.colon], .between)
  else if b = 0x22 then some ([], .string [])
  else if b = 0x2D then some ([], .number .sign [b])
  else if b = 0x30 then some ([], .number .zero [b])
  else if isDigit b then some ([], .number .whole [b])
  else if b = 0x74 then some ([], .word (ascii "rue") (.boolean true))
  else if b = 0x66 then some ([], .word (ascii "alse") (.boolean false))
  else if b = 0x6E then some ([], .word (ascii "ull") .null)
  else none

/-- One byte: the tokens it completes and the state behind it; `none` if it cannot stand here. -/
def Lexing.step? (s : Lexing) (b : UInt8) : Option (List Token × Lexing) :=
  match s with
  | .between => start? b
  | .string done =>
    if b = 0x22 then some ([.string done.reverse], .between)
    else if b = 0x5C then some ([], .escape (b :: done))
    else if b < 0x20 then none
    else some ([], .string (b :: done))
  | .escape done =>
    if b = 0x75 then some ([], .digits 4 (b :: done))
    else if (letter? b).isSome then some ([], .string (b :: done))
    else none
  | .digits left done =>
    if (Hex.digit? (Char.ofNat b.toNat)).isSome then
      some ([], if left ≤ 1 then .string (b :: done) else .digits (left - 1) (b :: done))
    else none
  | .number d done =>
    match d.next? b with
    | some d => some ([], .number d (b :: done))
    | none =>
      if d.complete then
        (start? b).map fun (tokens, s) => (.atom (.number done.reverse) :: tokens, s)
      else none
  | .word rest value =>
    match rest with
    | [] => none
    | [c] => if b = c then some ([.atom value], .between) else none
    | c :: rest => if b = c then some ([], .word rest value) else none

/-- The tokens that the end of the input completes. -/
def Lexing.finish? : Lexing → Option (List Token)
  | .between => some []
  | .number d done => if d.complete then some [.atom (.number done.reverse)] else none
  | _ => none

end FieldBridge.Json
