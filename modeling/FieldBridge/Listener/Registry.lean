/-
  The listener registry.

  Producers hand events to whoever is registered.  A listener may itself add, remove or deliver while it
  is being called, so several deliveries can be suspended inside one another.

  1. **Data** — every entry ever added is kept, with a flag that removal clears; `current` lists the
     registered ids in order of registration.  A delivery walks the list that was current when it began.

  2. **Program** — `Dispatch` is the registry together with the deliveries in progress, innermost first.
     `Dispatch.advance` takes the innermost delivery to the next listener whose flag is still set, or
     ends it.

  3. **Specification** — whatever happens between two advances, a delivery calls exactly the listeners
     that were registered when it began and not removed before it reached them, in order.
-/

namespace FieldBridge

/-- The handle of a registered listener. -/
structure ListenerId where
  number : Nat
  deriving DecidableEq, Repr, Inhabited

/-- A listener that was added once. -/
structure Entry (κ : Type) where
  id : ListenerId
  listener : κ
  active : Bool

/-- The registered listeners, and those that once were. -/
structure Registry (κ : Type) where
  nextNumber : Nat := 1
  added : List (Entry κ) := []
  current : List ListenerId := []

namespace Registry

variable {κ : Type}

/-- Register a listener; gives its handle. -/
def add (r : Registry κ) (listener : κ) : ListenerId × Registry κ :=
  let id : ListenerId := ⟨r.nextNumber⟩
  (id, ⟨r.nextNumber + 1, r.added ++ [⟨id, listener, true⟩], r.current ++ [id]⟩)

/-- Clear the flag of an entry. -/
def deactivate (id : ListenerId) (e : Entry κ) : Entry κ :=
  if e.id = id then { e with active := false } else e

/-- Deregister a listener; says whether it was registered. -/
def remove (r : Registry κ) (id : ListenerId) : Bool × Registry κ :=
  if r.current.contains id then
    (true, { r with
      added := r.added.map (deactivate id)
      current := r.current.filter (· ≠ id) })
  else (false, r)

/-- The number of registered listeners. -/
def size (r : Registry κ) : Nat := r.current.length

/-- No listener is registered. -/
def isEmpty (r : Registry κ) : Bool := r.current.isEmpty

/-- The listener behind a handle, if it has not been removed. -/
def active? (r : Registry κ) (id : ListenerId) : Option κ :=
  (r.added.find? fun e => e.id = id && e.active).map (·.listener)

/-- The listeners that a delivery reaches if none of them changes the registry. -/
def reached (r : Registry κ) : List κ := r.current.filterMap r.active?

end Registry

/-- A delivery in progress: the event and the listeners it has yet to reach. -/
structure Delivery (ε : Type) where
  event : ε
  remaining : List ListenerId

/-- A registry and the deliveries in progress, innermost first. -/
structure Dispatch (κ ε : Type) where
  registry : Registry κ := {}
  deliveries : List (Delivery ε) := []

namespace Dispatch

variable {κ ε : Type}

/-- A listener being called. -/
structure Call (κ ε : Type) where
  id : ListenerId
  listener : κ
  event : ε

/-- Begin a delivery, inside the one in progress if there is one. -/
def deliver (d : Dispatch κ ε) (event : ε) : Dispatch κ ε :=
  { d with deliveries := ⟨event, d.registry.current⟩ :: d.deliveries }

/-- Register a listener. -/
def add (d : Dispatch κ ε) (listener : κ) : ListenerId × Dispatch κ ε :=
  let (id, registry) := d.registry.add listener
  (id, { d with registry })

/-- Deregister a listener. -/
def remove (d : Dispatch κ ε) (id : ListenerId) : Bool × Dispatch κ ε :=
  let (found, registry) := d.registry.remove id
  (found, { d with registry })

/-- The next listener of a walk whose flag is set, and the rest of the walk behind it. -/
def next? (r : Registry κ) : List ListenerId → Option (ListenerId × κ × List ListenerId)
  | [] => none
  | id :: rest => match r.active? id with
    | some listener => some (id, listener, rest)
    | none => next? r rest

/-- Take the innermost delivery to its next listener, or end it. -/
def advance (d : Dispatch κ ε) : Option (Call κ ε) × Dispatch κ ε :=
  match d.deliveries with
  | [] => (none, d)
  | ⟨event, remaining⟩ :: outer => match next? d.registry remaining with
    | none => (none, { d with deliveries := outer })
    | some (id, listener, rest) =>
      (some ⟨id, listener, event⟩, { d with deliveries := ⟨event, rest⟩ :: outer })

end Dispatch

end FieldBridge
