/-
  The arithmetic of a poll timer.

  1. **Specification** — `PollTimer.asked`: from its start until a time polling asks for its whole list
     once for every multiple of the period that has been reached, the start itself included.

  2. **Program** — a timer knows only when its next tick is due.  It makes up at once for all the ticks
     that have fallen due since it last fired (`PollTimer.fire`).

  3. **Agreement** — firing at once gives what the specification says (`fire_start`), and it does not
     matter at which times in between the timer has fired before (`fire_fire`).  So what is asked for
     depends only on the time that has passed.
-/

import Mathlib.Data.List.Range
import Mathlib.Order.Basic
import FieldBridge.Source.Poller

namespace FieldBridge.PollTimer

/-- What polling asks for from its start until a time: its nodes, once for every multiple of the period
that has been reached. -/
def asked (nodes : List String) (period start now : Nat) : List String :=
  ((List.range (now + 1)).filter fun k => start + k * period ≤ now).flatMap fun _ => nodes

/-- The numbers of a range that lie below a bound. -/
theorem filter_range {n m : Nat} (hle : m ≤ n) {p : Nat → Bool} (hp : ∀ k, p k = true ↔ k < m) :
    (List.range n).filter p = List.range m := by
  obtain ⟨rest, rfl⟩ := Nat.exists_eq_add_of_le hle
  have hall : (List.range m).filter p = List.range m := by
    rw [List.filter_eq_self]
    exact fun k hk => (hp k).2 (List.mem_range.1 hk)
  have hnone : ((List.range rest).map (m + ·)).filter p = [] := by
    rw [List.filter_eq_nil_iff]
    intro k hk hpk
    obtain ⟨j, -, rfl⟩ := List.mem_map.1 hk
    have hlt := (hp (m + j)).1 hpk
    omega
  rw [List.range_add, List.filter_append, hall, hnone, List.append_nil]

variable {t : PollTimer} {now later : Nat}

/-- The ticks that are due are those whose times have been reached. -/
theorem lt_due (h : 0 < t.period) {k : Nat} : k < t.due now ↔ t.next + k * t.period ≤ now := by
  unfold due
  split
  · rw [Nat.lt_succ_iff, Nat.le_div_iff_mul_le h]
    omega
  · omega

/-- Ticks that have been made up for are not due again, and no tick is lost. -/
theorem due_add (h : 0 < t.period) (hle : now ≤ later) :
    t.due now + (t.fire now).2.due later = t.due later := by
  refine eq_of_forall_lt_iff fun k => ?_
  have hperiod : 0 < (t.fire now).2.period := h
  rw [lt_due h]
  rcases Nat.lt_or_ge k (t.due now) with hlt | hge
  · -- a tick that was due already
    have hreached := (lt_due h).1 hlt
    constructor
    · exact fun _ => Nat.le_trans hreached hle
    · exact fun _ => Nat.lt_add_right _ hlt
  · obtain ⟨j, rfl⟩ := Nat.exists_eq_add_of_le hge
    rw [Nat.add_lt_add_iff_left, lt_due hperiod]
    show t.next + t.due now * t.period + j * t.period ≤ later ↔ _
    rw [Nat.add_assoc, ← Nat.add_mul]

/-- A timer that has just been started asks for what the specification says. -/
theorem fire_start (nodes : List String) {period start : Nat} (h : 0 < period) (now : Nat) :
    ((⟨nodes, period, start⟩ : PollTimer).fire now).1 = asked nodes period start now := by
  let t : PollTimer := ⟨nodes, period, start⟩
  have hle : t.due now ≤ now + 1 := by
    refine Nat.le_of_not_lt fun hlt => ?_
    have hreached : start + (now + 1) * period ≤ now := (lt_due (t := t) h).1 hlt
    have hmul := Nat.le_mul_of_pos_right (now + 1) h
    omega
  have hticks : ((List.range (now + 1)).filter fun k => start + k * period ≤ now)
      = List.range (t.due now) := by
    refine filter_range hle fun k => ?_
    rw [decide_eq_true_iff, lt_due (t := t) h]
  rw [asked, hticks, List.flatMap_def, List.map_const', List.length_range]
  rfl

/-- **Firing** twice gives what firing once at the later time gives. -/
theorem fire_fire (h : 0 < t.period) (hle : now ≤ later) :
    (t.fire now).1 ++ ((t.fire now).2.fire later).1 = (t.fire later).1
    ∧ ((t.fire now).2.fire later).2 = (t.fire later).2 := by
  have hdue := due_add h hle
  constructor
  · show (List.replicate (t.due now) t.nodes).flatten
      ++ (List.replicate ((t.fire now).2.due later) t.nodes).flatten
      = (List.replicate (t.due later) t.nodes).flatten
    rw [← List.flatten_append, ← List.replicate_add, hdue]
  · show ({ t with next := t.next + t.due now * t.period
                          + (t.fire now).2.due later * t.period } : PollTimer)
      = { t with next := t.next + t.due later * t.period }
    rw [Nat.add_assoc, ← Nat.add_mul, hdue]

end FieldBridge.PollTimer
