/-
  The poll timer.

  A running timer ticks when it is started and then once per period; a tick asks for each node of its
  list.  Ticks that fall due while time is not looked at are made up for all at once, so their number
  depends only on the time that has passed.
-/

namespace FieldBridge

/-- A running poll timer. -/
structure PollTimer where
  nodes : List String
  period : Nat
  /-- When the next tick is due. -/
  next : Nat
  deriving DecidableEq, Repr, Inhabited

namespace PollTimer

/-- A timer that starts now; a period of zero gives none.

The ticks are counted from `now`, the time of the call, although the first of them is taken only when
tasks run.  A timer that counts from where its task first runs is the same timer as long as tasks run
before time moves on.  The two differ only where the clock is set forward at once right behind the call,
before anything has run: this one then makes up for the ticks in between, the other starts behind them. -/
def start (nodes : List String) (period now : Nat) : Option PollTimer :=
  if period = 0 then none else some ⟨nodes, period, now⟩

/-- The number of ticks that are due. -/
def due (t : PollTimer) (now : Nat) : Nat :=
  if t.next ≤ now then (now - t.next) / t.period + 1 else 0

/-- The nodes asked for by the ticks that are due, and the timer after them. -/
def fire (t : PollTimer) (now : Nat) : List String × PollTimer :=
  let ticks := t.due now
  ((List.replicate ticks t.nodes).flatten, { t with next := t.next + ticks * t.period })

end PollTimer

end FieldBridge
