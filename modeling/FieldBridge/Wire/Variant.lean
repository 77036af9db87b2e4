/-
  Values on the wire.

  The protocol has more types than the bridge needs: integers of four widths, texts that can be null, and
  kinds of values that the bridge does not know.  `Variant.toValue` takes each to a value of the bridge: a
  null text becomes empty, a locale that is null or empty is none, and an unknown kind becomes a text
  that describes it (`Variant.describe`).
-/

import FieldBridge.Node.Id
import FieldBridge.Server.Protocol
import FieldBridge.Value

namespace FieldBridge

/-- A value as the protocol carries it. -/
inductive Variant where
  | empty
  | boolean (value : Bool)
  | sbyte (value : Int8)
  | byte (value : UInt8)
  | int16 (value : Int16)
  | uint16 (value : UInt16)
  | int32 (value : Int32)
  | uint32 (value : UInt32)
  | int64 (value : Int64)
  | uint64 (value : UInt64)
  | float (bits : UInt32)
  | double (bits : UInt64)
  | string (value : Option String)
  /-- Ticks of 100 nanoseconds since 1601. -/
  | dateTime (ticks : Int64)
  | guid (value : Guid)
  | byteString (value : Option Bytes)
  | xmlElement (value : Option String)
  | statusCode (value : Status)
  | qualifiedName (space : UInt16) (name : Option String)
  | localizedText (locale text : Option String)
  | nodeId (value : NodeId)
  | array (values : List Variant)
  deriving Inhabited

namespace Variant

/-! ## Times -/

/-- The ticks from 1601-01-01 to the last second of the year 9999, the last time that can be sent. -/
def lastTick : Int := 2650467743990000000

/-- The seconds from 1601-01-01 to 1970-01-01. -/
def epochSeconds : Int := 11644473600

/-- The instant that a count of ticks stands for; counts before and after the range stand for its
ends. -/
def instant (ticks : Int64) : Instant :=
  let t := max 0 (min ticks.toInt lastTick)
  (Instant.ofUnix? (t / 10000000 - epochSeconds) ((t % 10000000).toNat * 100)).getD default

/-! ## Descriptions -/

/-- One character between double quotes; those that cannot be shown are written by number. -/
def quoteChar (c : Char) : List Char :=
  if c = '"' ∨ c = '\\' then ['\\', c]
  else if c = '\n' then ['\\', 'n']
  else if c = '\r' then ['\\', 'r']
  else if c = '\t' then ['\\', 't']
  else if c.toNat = 0 then ['\\', '0']
  else if c.toNat < 0x20 ∨ (0x7F ≤ c.toNat ∧ c.toNat < 0xA0) then
    ['\\', 'u', '\x7b'] ++ Nat.toDigits 16 c.toNat ++ ['\x7d']
  else [c]

/-- A text in double quotes. -/
def quote (s : String) : List Char := '"' :: s.toList.flatMap quoteChar ++ ['"']

/-- A part with its name in front and in parentheses. -/
def tagged (name : String) (part : List Char) : List Char := name.toList ++ '(' :: part ++ [')']

/-- Fields with a name in front and in braces. -/
def braced (name : String) (fields : List (String × List Char)) : List Char :=
  let field (f : String × List Char) : List Char := f.1.toList ++ ':' :: ' ' :: f.2
  name.toList ++ ' ' :: '\x7b' :: ' ' :: [',', ' '].intercalate (fields.map field) ++ [' ', '\x7d']

/-- Something that may be missing. -/
def perhaps : Option (List Char) → List Char
  | some s => tagged "Some" s
  | none => "None".toList

/-- A text that may be null. -/
def describeText (s : Option String) : List Char :=
  braced "UAString" [("value", perhaps (s.map quote))]

/-- Numbers in brackets. -/
def describeBytes (b : Bytes) : List Char :=
  '[' :: [',', ' '].intercalate (b.map fun x => Decimal.digits x.toNat) ++ [']']

/-- An identifier and its kind. -/
def describeIdentifier : Identifier → List Char
  | .numeric n => tagged "Numeric" (Decimal.digits n.toNat)
  | .string s => tagged "String" (describeText (some s))
  | .guid g => tagged "Guid" g.text
  | .opaqueBytes b =>
    tagged "ByteString" (braced "ByteString" [("value", perhaps (some (describeBytes b)))])

/-- A node id and its parts. -/
def describeNode (id : NodeId) : List Char :=
  braced "NodeId" [("namespace", Decimal.digits id.space.toNat),
    ("identifier", describeIdentifier id.identifier)]

/-- A text for the kinds of values that the bridge does not know. -/
def describe : Variant → List Char
  | .xmlElement v => tagged "XmlElement" (describeText v)
  | .statusCode s =>
    tagged "StatusCode" (tagged "StatusCode" ("0x".toList ++ Nat.toDigits 16 s.code.toNat))
  | .nodeId id => tagged "NodeId" (describeNode id)
  | _ => []

/-! ## Conversion -/

/-- A text, null being empty. -/
def textOf (s : Option String) : String := s.getD ""

/-- A locale, empty being none. -/
def localeOf : Option String → Option String
  | some "" => none
  | l => l

mutual

/-- The value that the bridge makes of a variant. -/
def toValue : Variant → Value
  | .empty => .null
  | .boolean v => .boolean v
  | .sbyte v => .int v.toInt64
  | .int16 v => .int v.toInt64
  | .int32 v => .int v.toInt64
  | .int64 v => .int v
  | .byte v => .uint v.toUInt64
  | .uint16 v => .uint v.toUInt64
  | .uint32 v => .uint v.toUInt64
  | .uint64 v => .uint v
  | .float bits => .single bits
  | .double bits => .double bits
  | .string v => .string (textOf v)
  | .dateTime ticks => .dateTime (instant ticks)
  | .guid v => .guid v
  | .byteString v => .byteString (v.getD [])
  | .qualifiedName space name => .qualifiedName space (textOf name)
  | .localizedText locale text => .localizedText (localeOf locale) (textOf text)
  | .array values => .array (toValues values)
  | .xmlElement v => .string (String.ofList (describe (.xmlElement v)))
  | .statusCode v => .string (String.ofList (describe (.statusCode v)))
  | .nodeId v => .string (String.ofList (describe (.nodeId v)))

/-- The values of variants. -/
def toValues : List Variant → List Value
  | [] => []
  | v :: rest => toValue v :: toValues rest

end

end Variant

/-- An answer on the wire; a status that is missing is good. -/
structure WireData where
  value : Option Variant
  status : Option Status
  deriving Inhabited

/-- The answer as the bridge sees it. -/
def WireData.toData (d : WireData) : DataValue :=
  ⟨d.value.map Variant.toValue, d.status.getD .good⟩

end FieldBridge
