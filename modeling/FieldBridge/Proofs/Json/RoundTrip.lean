/-
  JSON values read back.

  The written form of a value is one of the texts that write it, the one without blanks.  So a well-formed
  value is what its written form says (`read?_write`).

  A record is written as the object of its fields and nothing else, so these are found in it as long as no
  two names are the same (`fields?_record`).
-/

import FieldBridge.Proofs.Json.Layout
import FieldBridge.Proofs.Json.Members

namespace FieldBridge.Json

/-- **Round trip**: a well-formed value is what its written form says. -/
theorem read?_write {v : Json} (h : WellFormed v) : read? (write v) = some v :=
  read?_of_writes h (writes_write v)

/-! ## Records -/

/-- The fields of a record whose names differ are its values. -/
theorem fields?_record {fields : List (String × Json)} (names : List String)
    (hnames : fields.map (·.1) = names) (hnodup : names.Nodup) :
    (record fields).fields? names = some (fields.map (·.2)) :=
  fields?_of_extends names hnames hnodup (extends_record fields)

/-- A record of well-formed values is well formed. -/
theorem wellFormed_record {fields : List (String × Json)} (h : ∀ f ∈ fields, WellFormed f.2) :
    WellFormed (record fields) :=
  wellFormed_of_extends h (extends_record fields)

theorem wellFormed_ofText (s : String) : WellFormed (ofText s) := quotable_escape s.toList

end FieldBridge.Json
