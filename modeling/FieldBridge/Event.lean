/-
  Attribute sets: the events of the bridge.

  An attribute set holds the formatted texts seen for one node in one read or one notification.  It is
  a finite map from the six attributes to texts, so it has one field for each; two sets are equal
  exactly when they hold the same texts (`ext_get?`).

  The last write wins: `get?_insert`, `get?_merge`, `get?_ofList`.
-/

import FieldBridge.Attribute

namespace FieldBridge

/-- Formatted texts by attribute. -/
structure AttributeSet where
  nodeId : Option String := none
  browseName : Option String := none
  displayName : Option String := none
  description : Option String := none
  value : Option String := none
  timestamp : Option String := none
  deriving DecidableEq, Repr, Inhabited

namespace AttributeSet

/-- The set without any attribute. -/
def empty : AttributeSet := {}

/-- The text of an attribute. -/
def get? (s : AttributeSet) : Attribute → Option String
  | .nodeId => s.nodeId
  | .browseName => s.browseName
  | .displayName => s.displayName
  | .description => s.description
  | .value => s.value
  | .timestamp => s.timestamp

/-- The text of an attribute, or the empty text. -/
def getOrEmpty (s : AttributeSet) (a : Attribute) : String := (s.get? a).getD ""

/-- Write the text of an attribute over what was there. -/
def insert (s : AttributeSet) (a : Attribute) (text : String) : AttributeSet :=
  match a with
  | .nodeId => { s with nodeId := some text }
  | .browseName => { s with browseName := some text }
  | .displayName => { s with displayName := some text }
  | .description => { s with description := some text }
  | .value => { s with value := some text }
  | .timestamp => { s with timestamp := some text }

/-- Write every text of `other` over `s`. -/
def merge (s other : AttributeSet) : AttributeSet where
  nodeId := other.nodeId.or s.nodeId
  browseName := other.browseName.or s.browseName
  displayName := other.displayName.or s.displayName
  description := other.description.or s.description
  value := other.value.or s.value
  timestamp := other.timestamp.or s.timestamp

/-- Write the pairs one after another into an empty set. -/
def ofList (pairs : List (Attribute × String)) : AttributeSet :=
  pairs.foldl (fun s p => s.insert p.1 p.2) empty

/-- The texts in catalog order. -/
def toList (s : AttributeSet) : List (Attribute × String) :=
  Attribute.all.filterMap fun a => (s.get? a).map (a, ·)

/-- The number of attributes present. -/
def size (s : AttributeSet) : Nat := s.toList.length

/-- No attribute is present. -/
def isEmpty (s : AttributeSet) : Bool := s.toList.isEmpty

/-! ## The set as a map -/

theorem ext_get? {s t : AttributeSet} (h : ∀ a, s.get? a = t.get? a) : s = t := by
  cases s; cases t
  have h₁ := h .nodeId; have h₂ := h .browseName; have h₃ := h .displayName
  have h₄ := h .description; have h₅ := h .value; have h₆ := h .timestamp
  simp only [get?] at h₁ h₂ h₃ h₄ h₅ h₆
  subst h₁ h₂ h₃ h₄ h₅ h₆
  rfl

@[simp] theorem get?_empty (a : Attribute) : empty.get? a = none := by cases a <;> rfl

theorem get?_insert (s : AttributeSet) (a b : Attribute) (text : String) :
    (s.insert a text).get? b = if a = b then some text else s.get? b := by
  cases a <;> cases b <;> rfl

theorem isEmpty_empty : empty.isEmpty = true := rfl

/-- A set that has an attribute is not empty. -/
theorem isEmpty_of_get? {s : AttributeSet} {a : Attribute} {text : String} (h : s.get? a = some text) :
    s.isEmpty = false := by
  have hmem : (a, text) ∈ s.toList := List.mem_filterMap.2 ⟨a, a.mem_all, by rw [h]; rfl⟩
  unfold isEmpty
  cases hl : s.toList with
  | nil => simp [hl] at hmem
  | cons p rest => rfl

theorem get?_merge (s other : AttributeSet) (a : Attribute) :
    (s.merge other).get? a = (other.get? a).or (s.get? a) := by
  cases a <;> rfl

end AttributeSet

end FieldBridge
