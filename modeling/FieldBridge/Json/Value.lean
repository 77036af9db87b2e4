/-
  JSON values, kept as they are written.

  A number is kept as its characters and a string as what stands between its quotes, so a value is
  known to be well formed before anything in it is interpreted.  What a string says is a second step,
  `unescape?`, which a reader takes only for the strings it needs.

  1. **Writing** — `Json.ofText` escapes a text, `Json.write` lays a value out without blanks.

  2. **Interpreting** — `Json.text?` undoes the escapes, `Json.fields?` takes a record apart: an object
     with each named member exactly once, others ignored, or an array of just the fields in order.
-/

import FieldBridge.Text.Hex

namespace FieldBridge

/-- A JSON value. -/
inductive Json where
  | null
  | boolean (value : Bool)
  | number (written : Bytes)
  | string (written : Bytes)
  | array (elements : List Json)
  | object (members : List (Bytes × Json))
  deriving Inhabited

namespace Json

/-! ## Strings -/

/-- The bytes of an ASCII text. -/
def ascii (s : String) : Bytes := s.toList.map fun c => c.toNat.toUInt8

/-- The written form of one character within a string. -/
def escapeChar (c : Char) : Bytes :=
  if c = '"' then ascii "\\\""
  else if c = '\\' then ascii "\\\\"
  else if c = '\x08' then ascii "\\b"
  else if c = '\t' then ascii "\\t"
  else if c = '\n' then ascii "\\n"
  else if c = '\x0c' then ascii "\\f"
  else if c = '\r' then ascii "\\r"
  else if c.toNat < 0x20 then
    ascii "\\u00" ++ (Hex.fixed 2 c.toNat).map fun d => d.toNat.toUInt8
  else Utf8.encodeChar c

/-- The written form of a text within a string. -/
def escape (s : List Char) : Bytes := s.flatMap escapeChar

/-- A string that says `s`. -/
def ofText (s : String) : Json := .string (escape s.toList)

/-- The number written by four hexadecimal digits. -/
def unit? (a b c d : UInt8) : Option Nat := do
  let a ← Hex.digit? (Char.ofNat a.toNat)
  let b ← Hex.digit? (Char.ofNat b.toNat)
  let c ← Hex.digit? (Char.ofNat c.toNat)
  let d ← Hex.digit? (Char.ofNat d.toNat)
  some (((a * 16 + b) * 16 + c) * 16 + d)

/-- The byte behind a backslash, for the escapes of one letter. -/
def letter? (c : UInt8) : Option UInt8 :=
  if c = 0x22 ∨ c = 0x5C ∨ c = 0x2F then some c
  else if c = 0x62 then some 0x08
  else if c = 0x66 then some 0x0C
  else if c = 0x6E then some 0x0A
  else if c = 0x72 then some 0x0D
  else if c = 0x74 then some 0x09
  else none

/-- The bytes of a character in reverse order, in front of `done`. -/
def pushChar (n : Nat) (done : Bytes) : Bytes :=
  (Utf8.encodeChar (Char.ofNat n)).reverse ++ done

/-- Undo the escapes; `done` holds the bytes so far, last first.  A unit of the upper surrogate half
must be followed by one of the lower half, and none of the lower half stands alone. -/
def unescapeFrom? (done : Bytes) : Bytes → Option Bytes
  | [] => some done.reverse
  | 0x5C :: 0x75 :: a :: b :: c :: d :: s => match unit? a b c d with
    | none => none
    | some n =>
      if 0xD800 ≤ n && n < 0xDC00 then
        match s with
        | 0x5C :: 0x75 :: e :: f :: g :: h :: s => match unit? e f g h with
          | none => none
          | some m =>
            if 0xDC00 ≤ m && m < 0xE000 then
              unescapeFrom? (pushChar (0x10000 + (n - 0xD800) * 0x400 + (m - 0xDC00)) done) s
            else none
        | _ => none
      else if 0xDC00 ≤ n && n < 0xE000 then none
      else unescapeFrom? (pushChar n done) s
  | 0x5C :: c :: s => match letter? c with
    | none => none
    | some b => unescapeFrom? (b :: done) s
  | 0x5C :: [] => none
  | b :: s => unescapeFrom? (b :: done) s

/-- What a written string says; `none` if an escape or the bytes make no text. -/
def unescape? (written : Bytes) : Option String :=
  (unescapeFrom? [] written).bind fun bytes => (Utf8.decode? bytes).map String.ofList

/-- What a string value says. -/
def text? : Json → Option String
  | .string written => unescape? written
  | _ => none

/-! ## Records -/

/-- The members of an object with what their names say. -/
def named? : List (Bytes × Json) → Option (List (String × Json))
  | [] => some []
  | (key, v) :: rest => do
    let name ← unescape? key
    let rest ← named? rest
    some ((name, v) :: rest)

/-- The value of the only member with a name. -/
def member? (members : List (String × Json)) (name : String) : Option Json :=
  match members.filter fun m => m.1 = name with
  | [m] => some m.2
  | _ => none

/-- The values of the named fields of a record, in the order of the names. -/
def fields? (names : List String) : Json → Option (List Json)
  | .object members => do
    let members ← named? members
    names.mapM (member? members)
  | .array elements => if elements.length = names.length then some elements else none
  | _ => none

/-- A record with named fields. -/
def record (fields : List (String × Json)) : Json :=
  .object (fields.map fun f => (escape f.1.toList, f.2))

/-! ## Writing -/

/-- A string in quotes. -/
def quoted (written : Bytes) : Bytes := 0x22 :: written ++ [0x22]

mutual

/-- The written form of a value, without blanks. -/
def write : Json → Bytes
  | .null => ascii "null"
  | .boolean true => ascii "true"
  | .boolean false => ascii "false"
  | .number written => written
  | .string written => quoted written
  | .array elements => 0x5B :: writeElements elements ++ [0x5D]
  | .object members => 0x7B :: writeMembers members ++ [0x7D]

/-- Values separated by commas. -/
def writeElements : List Json → Bytes
  | [] => []
  | [v] => write v
  | v :: w :: rest => write v ++ 0x2C :: writeElements (w :: rest)

/-- Members separated by commas. -/
def writeMembers : List (Bytes × Json) → Bytes
  | [] => []
  | [(key, v)] => quoted key ++ 0x3A :: write v
  | (key, v) :: m :: rest => quoted key ++ 0x3A :: write v ++ 0x2C :: writeMembers (m :: rest)

end

end Json

end FieldBridge
