/-
  From the history of an event to its message.

  An event is built by writing: an attribute set is empty at first or collected from pairs, and then texts
  are inserted (in place or in the style of a builder, which is the same on values) and other sets merged
  into it.

  1. **Specification** — the history of an event is the list of its writes, in the order of building, where
     a merge writes what the other set holds by then (`Build.writes`).  Of each attribute the last write
     counts (`lastWritten?`).

  2. **Sets** — a set holds of every attribute the text written last (`get?_set`), so it is empty exactly if
     nothing was ever written (`isEmpty_set_iff`).

  3. **Messages** (`tells_histories`) — by induction on the items: each one that is present and was ever
     written to becomes one message, which tells its history, and every other item leaves no trace.
-/

import Mathlib.Data.List.Forall2
import FieldBridge.Pipeline

namespace FieldBridge

/-! ## Specification -/

namespace AttributeSet

/-- The text of an attribute that was written last. -/
def lastWritten? (writes : List (Attribute × String)) (a : Attribute) : Option String :=
  (writes.filterMap fun w => if w.1 = a then some w.2 else none).getLast?

/-- The values that count after some writes, one for each attribute written. -/
def current (writes : List (Attribute × String)) : List (Attribute × String) :=
  Attribute.all.filterMap fun a => (lastWritten? writes a).map (a, ·)

/-- How an attribute set is built. -/
inductive Build where
  | empty
  | collect (pairs : List (Attribute × String))
  | insert (build : Build) (a : Attribute) (text : String)
  | merge (build other : Build)

namespace Build

/-- The set that is built. -/
def set : Build → AttributeSet
  | .empty => .empty
  | .collect pairs => .ofList pairs
  | .insert build a text => build.set.insert a text
  | .merge build other => build.set.merge other.set

/-- The writes, in the order of building. -/
def writes : Build → List (Attribute × String)
  | .empty => []
  | .collect pairs => pairs
  | .insert build a text => build.writes ++ [(a, text)]
  | .merge build other => build.writes ++ current other.writes

end Build

end AttributeSet

namespace Pipeline

open AttributeSet (Build lastWritten?)

/-- An item by the way it comes in and the way its event was built. -/
inductive Input where
  | event (build : Build)
  | optional (build : Option Build)
  | delivered (build : Build)

namespace Input

/-- The item that comes in. -/
def item : Input → Item
  | .event build => .event build.set
  | .optional build => .optional (build.map Build.set)
  | .delivered build => .delivered build.set

/-- The writes of an item that is present and was ever written to. -/
def history? (i : Input) : Option (List (Attribute × String)) :=
  match i with
  | .event build | .optional (some build) | .delivered build =>
    if build.writes = [] then none else some build.writes
  | .optional none => none

end Input

/-- What a message tells of an event, made at a time, by the writes of the event. -/
structure Tells (aggregateId : String) (time : Instant) (writes : List (Attribute × String))
    (m : Message) : Prop where
  aggregateId : m.metadata.aggregateId = aggregateId
  time : m.metadata.timestamp = time
  nodeId : m.payload.nodeId = (lastWritten? writes .nodeId).getD ""
  browseName : m.payload.browseName = (lastWritten? writes .browseName).getD ""
  displayName : m.payload.displayName = (lastWritten? writes .displayName).getD ""
  description : m.payload.description = (lastWritten? writes .description).getD ""
  value : m.payload.value = (lastWritten? writes .value).getD ""

/-- Pipe items one after another, each at its own time: the messages in order, and the stage afterwards. -/
def pipeEach (p : Pipeline) : List (Instant × Item) → List Message × Pipeline
  | [] => ([], p)
  | (time, item) :: rest =>
    let (m, p) := p.pipe time item
    let (ms, p) := p.pipeEach rest
    (m.toList ++ ms, p)

end Pipeline

/-! ## Sets -/

namespace AttributeSet

theorem lastWritten?_append (front behind : List (Attribute × String)) (a : Attribute) :
    lastWritten? (front ++ behind) a = (lastWritten? behind a).or (lastWritten? front a) := by
  simp only [lastWritten?, List.filterMap_append, List.getLast?_append]

theorem lastWritten?_singleton (a b : Attribute) (text : String) :
    lastWritten? [(a, text)] b = if a = b then some text else none := by
  unfold lastWritten?
  split
  · rename_i h
    simp [h]
  · rename_i h
    simp [h]

/-- An attribute was written exactly if there is a last write of it. -/
theorem lastWritten?_eq_none_iff {writes : List (Attribute × String)} {a : Attribute} :
    lastWritten? writes a = none ↔ ∀ w ∈ writes, w.1 ≠ a := by
  rw [lastWritten?, List.getLast?_eq_none_iff, List.filterMap_eq_nil_iff]
  simp

/-- Merging writes the value that counts of each attribute. -/
theorem lastWritten?_current (writes : List (Attribute × String)) (a : Attribute) :
    lastWritten? (current writes) a = lastWritten? writes a := by
  -- of the whole catalog, only the attribute itself writes to it
  have hone : ∀ b : Attribute, ((lastWritten? writes b).map (b, ·)).bind
      (fun w => if w.1 = a then some w.2 else none) = if b = a then lastWritten? writes a else none := by
    intro b
    split
    · rename_i h
      subst h
      cases lastWritten? writes b <;> simp
    · rename_i h
      cases lastWritten? writes b <;> simp [h]
  rw [lastWritten?, current, List.filterMap_filterMap, List.filterMap_congr fun b _ => hone b]
  generalize lastWritten? writes a = last
  cases a <;> cases last <;> rfl

/-- Writes are put into a set one after another. -/
theorem get?_foldl (pairs : List (Attribute × String)) (s : AttributeSet) (a : Attribute) :
    (pairs.foldl (fun s p => s.insert p.1 p.2) s).get? a = (lastWritten? pairs a).or (s.get? a) := by
  induction pairs generalizing s with
  | nil => rfl
  | cons p rest ih =>
    have hsplit : p :: rest = [p] ++ rest := rfl
    rw [List.foldl_cons, ih, get?_insert, hsplit, lastWritten?_append, lastWritten?_singleton,
      Option.or_assoc]
    congr 1
    split <;> rfl

/-- **Sets**: a set holds of every attribute the text that was written last. -/
theorem get?_set (build : Build) (a : Attribute) :
    build.set.get? a = lastWritten? build.writes a := by
  induction build with
  | empty => exact get?_empty a
  | collect pairs =>
    have hfold := get?_foldl pairs .empty a
    rwa [get?_empty, Option.or_none] at hfold
  | insert build b text ih =>
    rw [Build.set, Build.writes, get?_insert, lastWritten?_append, lastWritten?_singleton, ih]
    split <;> rfl
  | merge build other ih ihOther =>
    rw [Build.set, Build.writes, get?_merge, lastWritten?_append, lastWritten?_current, ih, ihOther]

/-- A set is empty exactly if it holds no attribute. -/
theorem isEmpty_iff {s : AttributeSet} : s.isEmpty = true ↔ ∀ a, s.get? a = none := by
  constructor
  · intro h a
    cases hget : s.get? a with
    | none => rfl
    | some text => exact absurd h (by simp [isEmpty_of_get? hget])
  · intro h
    simp [isEmpty, toList, h]

/-- A set is empty exactly if nothing was ever written. -/
theorem isEmpty_set_iff {build : Build} : build.set.isEmpty = true ↔ build.writes = [] := by
  simp only [isEmpty_iff, get?_set, lastWritten?_eq_none_iff]
  constructor
  · intro h
    refine List.eq_nil_iff_forall_not_mem.2 ?_
    intro w hw
    exact h w.1 w hw rfl
  · intro h a
    simp [h]

end AttributeSet

/-! ## Messages -/

namespace Pipeline

open AttributeSet

/-- The message that a stage makes of a set tells its history. -/
theorem tells_create (p : Pipeline) (time : Instant) (build : Build) :
    Tells p.aggregateId time build.writes
      ⟨⟨p.aggregateId, (Stamp.of p.issued time).traceId, (Stamp.of p.issued time).time⟩,
        Payload.ofEvent build.set⟩ := by
  constructor
  case aggregateId => rfl
  case time => rfl
  all_goals exact congrArg (·.getD "") (get?_set build _)

/-- A set that was written to becomes one message, and an empty one leaves the stage as it was. -/
theorem create_set (p : Pipeline) (time : Instant) (build : Build) :
    (build.writes = [] ∧ p.create time build.set = (none, p))
    ∨ build.writes ≠ [] ∧ ∃ m, Tells p.aggregateId time build.writes m
      ∧ p.create time build.set = (some m, { p with issued := p.issued + 1 }) := by
  by_cases h : build.writes = []
  · have hempty := isEmpty_set_iff.2 h
    exact Or.inl ⟨h, by simp [create, Message.ofEvent?, hempty]⟩
  · have hfull : build.set.isEmpty = false := by
      rw [← Bool.not_eq_true, isEmpty_set_iff]
      exact h
    refine Or.inr ⟨h, _, tells_create p time build, ?_⟩
    simp [create, Message.ofEvent?, hfull]

/-- Whatever way an item comes in, it becomes a message exactly if it has a history. -/
theorem pipe_input (p : Pipeline) (time : Instant) (i : Input) :
    (i.history? = none ∧ p.pipe time i.item = (none, p))
    ∨ ∃ writes m, i.history? = some writes ∧ Tells p.aggregateId time writes m
      ∧ p.pipe time i.item = (some m, { p with issued := p.issued + 1 }) := by
  cases i with
  | event build | delivered build =>
    rcases create_set p time build with ⟨h, hcreate⟩ | ⟨h, m, htells, hcreate⟩
    · exact Or.inl ⟨if_pos h, hcreate⟩
    · exact Or.inr ⟨build.writes, m, if_neg h, htells, hcreate⟩
  | optional build =>
    cases build with
    | none => exact Or.inl ⟨rfl, rfl⟩
    | some build =>
      rcases create_set p time build with ⟨h, hcreate⟩ | ⟨h, m, htells, hcreate⟩
      · exact Or.inl ⟨if_pos h, hcreate⟩
      · exact Or.inr ⟨build.writes, m, if_neg h, htells, hcreate⟩

/-- **Messages**: of any items, whatever way each comes in and however its event was built, the next stage
receives one message for each that is present and was ever written to, in the same order.  The message
carries the aggregate id of the stage and of each attribute the text that was written last, or the empty
text. -/
theorem tells_histories (p : Pipeline) (inputs : List (Instant × Input)) :
    List.Forall₂ (fun told m => Tells p.aggregateId told.1 told.2 m)
      (inputs.filterMap fun i => i.2.history?.map (i.1, ·))
      (p.pipeEach (inputs.map fun i => (i.1, i.2.item))).1 := by
  induction inputs generalizing p with
  | nil => exact .nil
  | cons first rest ih =>
    obtain ⟨time, i⟩ := first
    rw [List.map_cons, pipeEach, List.filterMap_cons]
    rcases pipe_input p time i with ⟨hnone, hpipe⟩ | ⟨writes, m, hsome, htells, hpipe⟩
    · simp only [hnone, hpipe, Option.map_none, Option.toList_none, List.nil_append]
      exact ih p
    · simp only [hsome, hpipe, Option.map_some, Option.toList_some, List.singleton_append]
      exact .cons htells (ih { p with issued := p.issued + 1 })

end Pipeline

end FieldBridge
