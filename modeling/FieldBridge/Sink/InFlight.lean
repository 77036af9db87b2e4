/-
  Operations in flight.

  A counter of operations that have begun and not ended.  An end without a begin is ignored, so the
  counter never falls below zero.  When an end takes the counter to zero, everyone who waits for that is
  woken; a woken waiter looks at the counter again and goes on waiting if it is above zero by then.

  `IdleWatch` is the counter together with tasks that wait for it and guards that end their operation
  when they are dropped.
-/

namespace FieldBridge

/-- The number of operations in flight. -/
structure InFlight where
  count : Nat := 0
  deriving DecidableEq, Repr, Inhabited

namespace InFlight

/-- An operation begins. -/
def start (f : InFlight) : InFlight := ⟨f.count + 1⟩

/-- An operation ends. -/
def finish (f : InFlight) : InFlight := ⟨f.count - 1⟩

/-- Ending an operation now leaves none in flight, so that the waiters are woken. -/
def wakes (f : InFlight) : Bool := f.count == 1

/-- Nothing is in flight. -/
def isIdle (f : InFlight) : Bool := f.count == 0

end InFlight

/-- A task that waits until nothing is in flight. -/
structure Waiter where
  name : String
  /-- It has to look at the counter: it has just been spawned, or was woken since its last look. -/
  awake : Bool
  deriving DecidableEq, Repr

/-- A counter, the tasks waiting for it and the named guards that hold operations. -/
structure IdleWatch where
  flight : InFlight := {}
  waiters : List Waiter := []
  guards : List String := []
  done : List String := []

namespace IdleWatch

/-- What can happen between two rounds of the tasks. -/
inductive Action where
  | start
  | finish
  /-- Begin an operation that ends when the guard of this name is dropped. -/
  | track (guard : String)
  | drop (guard : String)
  /-- Spawn a task that waits. -/
  | wait (name : String)
  deriving DecidableEq, Repr

/-- An operation begins. -/
def start (w : IdleWatch) : IdleWatch := { w with flight := w.flight.start }

/-- An operation ends, and wakes the waiters if it was the last. -/
def finish (w : IdleWatch) : IdleWatch :=
  { w with
    flight := w.flight.finish
    waiters := if w.flight.wakes then w.waiters.map fun t => { t with awake := true }
      else w.waiters }

/-- One action.  A new guard is made before one of the same name is dropped. -/
def act (w : IdleWatch) : Action → IdleWatch
  | .start => w.start
  | .finish => w.finish
  | .track guard =>
    let held := w.guards.contains guard
    let w := { w.start with guards := guard :: w.guards.filter (· ≠ guard) }
    if held then w.finish else w
  | .drop guard =>
    if w.guards.contains guard then
      { w.finish with guards := w.guards.filter (· ≠ guard) }
    else w
  | .wait name => { w with waiters := w.waiters ++ [⟨name, true⟩] }

/-- Let every awake task look at the counter: it is done at zero and waits on otherwise. -/
def settle (w : IdleWatch) : IdleWatch :=
  if w.flight.isIdle then
    { w with
      waiters := w.waiters.filter fun t => !t.awake
      done := w.done ++ (w.waiters.filter (·.awake)).map (·.name) }
  else { w with waiters := w.waiters.map fun t => { t with awake := false } }

/-- A batch of actions at once, without a task running in between. -/
def batch (w : IdleWatch) (actions : List Action) : IdleWatch := actions.foldl act w

end IdleWatch

end FieldBridge
