/-
  The create stage of the pipeline.

  Turns events into messages for the next stage.  An event can come as such, as an optional event, or
  through the listener registry; in each case an absent or empty event gives no message and any other
  exactly one, stamped with the pipeline's aggregate id.

  `Pipeline.issued` counts the messages made, so that each gets a stamp of its own.
-/

import FieldBridge.Message.Basic

namespace FieldBridge

/-- The create stage. -/
structure Pipeline where
  aggregateId : String
  issued : Nat := 0
  deriving DecidableEq, Repr, Inhabited

namespace Pipeline

/-- An item on its way in. -/
inductive Item where
  | event (event : AttributeSet)
  | optional (event : Option AttributeSet)
  /-- Delivered by the listener registry. -/
  | delivered (event : AttributeSet)
  deriving DecidableEq, Repr

/-- The event of an item, if it is present. -/
def Item.event? : Item → Option AttributeSet
  | .event e => some e
  | .optional e => e
  | .delivered e => some e

/-- The message for an event, made at a time. -/
def create (p : Pipeline) (time : Instant) (event : AttributeSet) : Option Message × Pipeline :=
  match Message.ofEvent? p.aggregateId (Stamp.of p.issued time) event with
  | none => (none, p)
  | some m => (some m, { p with issued := p.issued + 1 })

/-- The message for an item. -/
def pipe (p : Pipeline) (time : Instant) (item : Item) : Option Message × Pipeline :=
  match item.event? with
  | none => (none, p)
  | some event => p.create time event

end Pipeline

end FieldBridge
