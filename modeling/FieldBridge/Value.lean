/-
  Raw values and their text.

  A server delivers values of many types.  `Value.display` gives every value one text, and
  `Attribute.format` the text that an attribute takes from a value: the naming attributes accept only
  their own type and take anything else as empty.

  Floating-point values are kept as the bits of their interchange format.
-/

import FieldBridge.Attribute
import FieldBridge.Guid
import FieldBridge.Number.Shortest
import FieldBridge.Time.Instant

namespace FieldBridge

/-- A value as the server delivers it. -/
inductive Value where
  | boolean (value : Bool)
  | int (value : Int64)
  | uint (value : UInt64)
  | single (bits : UInt32)
  | double (bits : UInt64)
  | string (value : String)
  | dateTime (value : Instant)
  | guid (value : Guid)
  | byteString (value : Bytes)
  | qualifiedName (space : UInt16) (name : String)
  | localizedText (locale : Option String) (text : String)
  | array (values : List Value)
  | null
  deriving Inhabited

namespace Value

mutual

/-- The text of a value. -/
def display : Value → List Char
  | .boolean true => "true".toList
  | .boolean false => "false".toList
  | .int v => Decimal.signed v.toInt
  | .uint v => Decimal.digits v.toNat
  | .single bits => Layout.single.text bits.toNat
  | .double bits => Layout.double.text bits.toNat
  | .string v => v.toList
  | .dateTime v => v.text Instant.zeroOffset
  | .guid v => v.text
  | .byteString v => '<' :: Decimal.digits v.length ++ " bytes>".toList
  | .qualifiedName space name => Decimal.digits space.toNat ++ ':' :: name.toList
  | .localizedText _ text => text.toList
  | .array values => '[' :: displayAll values ++ [']']
  | .null => "null".toList

/-- The texts of values, separated by a comma and a space. -/
def displayAll : List Value → List Char
  | [] => []
  | [v] => display v
  | v :: w :: rest => display v ++ ',' :: ' ' :: displayAll (w :: rest)

end

/-- The text of a value as a string. -/
def text (v : Value) : String := String.ofList v.display

end Value

/-- The text that an attribute takes from a value. -/
def Attribute.format : Attribute → Value → String
  | .browseName, .qualifiedName _ name => name
  | .browseName, _ => ""
  | .displayName, .localizedText _ text => text
  | .displayName, _ => ""
  | .description, .localizedText _ text => text
  | .description, _ => ""
  | .nodeId, v => v.text
  | .value, v => v.text
  | .timestamp, v => v.text

end FieldBridge
