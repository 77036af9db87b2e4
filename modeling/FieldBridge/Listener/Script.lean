/-
  Scripted listeners.

  Five kinds of listeners that exercise a registry from within a delivery: one only records its calls,
  one logs, one removes another listener, one adds a further listener on each call, and one delivers an
  event of its own on its first call.

  `Stage` holds a registry with such listeners, the name under which each was last registered and the
  record of their calls.  `Stage.run` advances until no delivery is in progress; it ends because only a
  first call of a nesting listener begins a delivery, and every other advance shortens one.
-/

import FieldBridge.Event
import FieldBridge.Listener.Registry
import FieldBridge.Notice

namespace FieldBridge.Script

/-- What a listener does when it is called. -/
inductive Kind where
  | record
  | logging
  /-- Removes the listener known under the name. -/
  | remover (target : String)
  /-- Adds a recording listener. -/
  | adder
  /-- Delivers the event on its first call. -/
  | nested (event : AttributeSet)
  deriving DecidableEq, Repr

/-- A listener: its name and what it does. -/
structure Listener where
  name : String
  kind : Kind
  deriving DecidableEq, Repr

/-- An entry of the record. -/
inductive Mark where
  | called (name : String) (event : AttributeSet)
  /-- What removing gave; `none` if the name was not known. -/
  | removed (target : String) (found : Option Bool)
  deriving DecidableEq, Repr

/-- A registry of scripted listeners and what has happened to them. -/
structure Stage where
  dispatch : Dispatch Listener AttributeSet := {}
  /-- The handle last registered under each name, newest first. -/
  known : List (String × ListenerId) := []
  /-- Who has been called how often, newest first. -/
  counts : List (ListenerId × Nat) := []
  /-- Newest first. -/
  marks : List Mark := []
  /-- Newest first. -/
  notices : List Notice := []

namespace Stage

/-- Register a listener and make its name known. -/
def add (s : Stage) (l : Listener) : Stage :=
  let (id, dispatch) := s.dispatch.add l
  { s with dispatch, known := (l.name, id) :: s.known }

/-- Remove the listener last registered under a name; `none` if there is none. -/
def remove (s : Stage) (name : String) : Option Bool × Stage :=
  match s.known.lookup name with
  | none => (none, s)
  | some id =>
    let (found, dispatch) := s.dispatch.remove id
    (some found, { s with dispatch })

/-- How often a listener has been called before. -/
def countOf (s : Stage) (id : ListenerId) : Nat := (s.counts.lookup id).getD 0

/-- Put a mark into the record. -/
def mark (s : Stage) (m : Mark) : Stage := { s with marks := m :: s.marks }

/-- What a called listener does. -/
def react (s : Stage) (c : Dispatch.Call Listener AttributeSet) : Stage :=
  let before := s.countOf c.id
  let s := { s with counts := (c.id, before + 1) :: s.counts }
  let called := s.mark (.called c.listener.name c.event)
  match c.listener.kind with
  | .record => called
  | .logging =>
    { s with notices := .received (c.event.getOrEmpty .nodeId) :: s.notices }
  | .remover target =>
    let (found, s) := called.remove target
    s.mark (.removed target found)
  | .adder =>
    called.add ⟨c.listener.name ++ "." ++ Decimal.text (before + 1), .record⟩
  | .nested event =>
    if before = 0 then { called with dispatch := called.dispatch.deliver event } else called

/-- One advance and what the listener it reaches does. -/
def step (s : Stage) : Stage :=
  let (call, dispatch) := s.dispatch.advance
  let s := { s with dispatch }
  match call with
  | none => s
  | some c => s.react c

/-- The nesting listeners that have not been called yet. -/
def unused (s : Stage) : Nat :=
  (s.dispatch.registry.added.filter fun e => match e.listener.kind with
    | .nested _ => s.countOf e.id = 0
    | _ => false).length

/-- The advances needed if no delivery begins any more. -/
def pending (s : Stage) : Nat :=
  (s.dispatch.deliveries.flatMap (·.remaining)).length + s.dispatch.deliveries.length

/-- Advance until no delivery is in progress. -/
def run (s : Stage) : Stage :=
  if s.dispatch.deliveries.isEmpty then s
  else
    let next := s.step
    if next.unused < s.unused ∨ next.unused = s.unused ∧ next.pending < s.pending then run next
    else next
termination_by (s.unused, s.pending)
decreasing_by
  rename_i h
  rcases h with h | ⟨he, hp⟩
  · exact Prod.Lex.left _ _ h
  · rw [he]; exact Prod.Lex.right _ hp

/-- Deliver an event to whoever is registered. -/
def deliver (s : Stage) (event : AttributeSet) : Stage :=
  run { s with dispatch := s.dispatch.deliver event }

end Stage

end FieldBridge.Script
