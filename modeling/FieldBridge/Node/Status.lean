/-
  Status codes.

  A status is a 32-bit word whose two highest bits give the severity: good, uncertain or bad.
-/

import FieldBridge.Text.Hex

namespace FieldBridge

/-- The outcome of one operation on one item. -/
structure Status where
  code : UInt32
  deriving DecidableEq, Repr, Inhabited

namespace Status

def good : Status := ⟨0⟩
def nodeIdUnknown : Status := ⟨0x80340000⟩
def attributeIdInvalid : Status := ⟨0x80350000⟩
def itemIdInvalid : Status := ⟨0x80420000⟩

/-- Both severity bits are clear. -/
def isGood (s : Status) : Bool := s.code.toNat / 0x40000000 == 0

/-- The highest severity bit is set. -/
def isBad (s : Status) : Bool := s.code.toNat / 0x80000000 == 1

/-- `0x` and eight capital digits. -/
def text (s : Status) : String :=
  "0x" ++ String.ofList (Hex.fixedWith Hex.capital 8 s.code.toNat)

end Status

end FieldBridge
