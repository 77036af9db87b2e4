/-
  The two wire formats of keys and messages, by name.
-/

import FieldBridge.Text.Blank

namespace FieldBridge

/-- How keys and messages are encoded. -/
inductive Format where
  | json
  | cbor
  deriving DecidableEq, Repr

namespace Format

instance : Inhabited Format := ⟨.json⟩

/-- The format used when none is named. -/
def default : Format := .json

/-- The name of a format. -/
def name : Format → String
  | .json => "json"
  | .cbor => "cbor"

/-- The format with an exact name. -/
def ofName? (s : String) : Option Format := [Format.json, Format.cbor].find? fun f => f.name = s

/-- A name that stands for no format, trimmed and in lower case. -/
structure ParseError where
  word : String
  deriving DecidableEq, Repr

/-- The wording of the error. -/
def ParseError.message (e : ParseError) : String := "unknown payload format: " ++ e.word

/-- The format with a name, blanks around it and capitals allowed. -/
def parse (s : String) : Except ParseError Format :=
  let word := String.ofList (Text.keyword s.toList)
  match ofName? word with
  | some f => .ok f
  | none => .error ⟨word⟩

end Format

end FieldBridge
