/-
  Node ids.

  A node of the address space has a namespace index and an identifier, which is a number, a text, a
  globally unique identifier or opaque bytes.

  1. **Written form** — `ns=2;s=Temp`: the namespace, left out when it is 0, then `i=`, `s=`, `g=` or
     `b=` and the identifier (`NodeId.display`).

  2. **Reading** — `NodeId.parse` takes the written form with blanks around it, and other spellings of
     the numbers.  Its error names the first part, from left to right, that is at fault.
-/

import FieldBridge.Guid
import FieldBridge.Number.Decimal
import FieldBridge.Text.Base64
import FieldBridge.Text.Blank

namespace FieldBridge

/-- What tells a node apart within its namespace. -/
inductive Identifier where
  | numeric (value : UInt32)
  | string (value : String)
  | guid (value : Guid)
  | opaqueBytes (value : Bytes)
  deriving DecidableEq, Inhabited

/-- A node id. -/
structure NodeId where
  space : UInt16
  identifier : Identifier
  deriving DecidableEq, Inhabited

namespace NodeId

/-- Why a text is no node id; each cause carries the text at fault. -/
inductive ParseError where
  /-- A separator is missing; carries the whole input. -/
  | malformed (input : String)
  /-- The namespace index is no 16-bit number. -/
  | invalidNamespace (part : String)
  /-- The letter in front of `=` is not known. -/
  | unknownType (part : String)
  /-- The identifier does not fit its letter. -/
  | invalidIdentifier (part : String)
  deriving DecidableEq, Repr

/-- The wording of the error. -/
def ParseError.message : ParseError → String
  | .malformed input => "malformed node id: " ++ input
  | .invalidNamespace part => "invalid namespace index: " ++ part
  | .unknownType part => "unknown identifier type: " ++ part
  | .invalidIdentifier part => "invalid identifier: " ++ part

/-- The namespace in front, if it is written, and the rest. -/
def parseSpace (input : String) (s : List Char) : Except ParseError (UInt16 × List Char) :=
  match Text.after? "ns=".toList s with
  | none => .ok (0, s)
  | some rest => match Text.cut? ';' rest with
    | none => .error (.malformed input)
    | some (index, rest) => match Decimal.parse Decimal.limit16 index with
      | .ok n => .ok (n.toUInt16, rest)
      | .error _ => .error (.invalidNamespace (String.ofList index))

/-- The identifier behind a letter. -/
def parseIdentifier (letter value : List Char) : Except ParseError Identifier :=
  let invalid := ParseError.invalidIdentifier (String.ofList value)
  match letter with
  | ['i'] => match Decimal.parse Decimal.limit32 value with
    | .ok n => .ok (.numeric n.toUInt32)
    | .error _ => .error invalid
  | ['s'] => .ok (.string (String.ofList value))
  | ['g'] => match Guid.parse? value with
    | some g => .ok (.guid g)
    | none => .error invalid
  | ['b'] => match Base64.standard.decode? value with
    | some bytes => .ok (.opaqueBytes bytes)
    | none => .error invalid
  | other => .error (.unknownType (String.ofList other))

/-- The node id that a text writes. -/
def parse (input : String) : Except ParseError NodeId :=
  match parseSpace input (Text.trim input.toList) with
  | .error e => .error e
  | .ok (space, rest) => match Text.cut? '=' rest with
    | none => .error (.malformed input)
    | some (letter, value) => match parseIdentifier letter value with
      | .error e => .error e
      | .ok identifier => .ok ⟨space, identifier⟩

/-- The node id that a text writes, without the reason for a failure. -/
def parse? (input : String) : Option NodeId := (parse input).toOption

/-- Letter, `=` and identifier. -/
def displayIdentifier : Identifier → List Char
  | .numeric n => 'i' :: '=' :: Decimal.digits n.toNat
  | .string s => 's' :: '=' :: s.toList
  | .guid g => 'g' :: '=' :: g.text
  | .opaqueBytes b => 'b' :: '=' :: Base64.standard.encode b

/-- The written form. -/
def display (id : NodeId) : List Char :=
  (if id.space = 0 then [] else "ns=".toList ++ Decimal.digits id.space.toNat ++ [';'])
    ++ displayIdentifier id.identifier

/-- The written form as a string. -/
def text (id : NodeId) : String := String.ofList id.display

/-- The node that a text names, read as a bare identifier of namespace 0 if it is no node id. -/
def ofText (s : String) : NodeId := (parse? s).getD ⟨0, .string s⟩

end NodeId

end FieldBridge
