/-
  How long a shutdown waits.

  1. **Deadline** — a shutdown is over once its flush has been answered, or else at its deadline
     (`shutdown_timely`).  A broker that stalls makes it wait up to the deadline and fail there, with
     the timer and the connection gone and the listeners still registered (`shutdown_stalled`).

  2. **Cuts** — a shutdown that is awaited is one that is cut at its flush, with nothing but tasks and time
     in between (`shutdown_eq_cut`).  So what holds of a shutdown in which anything else happens, permits
     and calls among it, holds of one that is awaited, too.
-/

import FieldBridge.Proofs.Bridge.Lifecycle

namespace FieldBridge

/-! ## What the broker does with a flush -/

/-- The gate answers a flush alike before and after a job arrives. -/
theorem GatedBroker.flush_arrive (g : GatedBroker) (j : Job) : (g.arrive j).2.flush = g.flush := by
  unfold arrive
  split
  · rfl
  · split
    · rfl
    · rfl

namespace Outbox

theorem flush_run (o : Outbox) (r : ReadyJob) : (o.run r).gate.flush = o.gate.flush := by
  unfold run
  split
  · rfl
  · have harrive := o.gate.flush_arrive r.job
    dsimp only
    split
    · exact harrive
    · exact harrive

/-- Jobs that run leave what the broker does with a flush as it is. -/
theorem flush_settle (o : Outbox) : o.settle.gate.flush = o.gate.flush := by
  have hjobs (jobs : List ReadyJob) (o : Outbox) : (jobs.foldl run o).gate.flush = o.gate.flush := by
    induction jobs generalizing o with
    | nil => rfl
    | cons r rest ih => exact (ih (o.run r)).trans (o.flush_run r)
  exact hjobs o.ready { o with ready := [] }

end Outbox

namespace Bridge

variable {b : Bridge}

theorem flush_settle (b : Bridge) : b.settle.outbox.gate.flush = b.outbox.gate.flush := by
  obtain ⟨timer, b₁, hworked, hsettle, -⟩ := b.settle_eq
  obtain ⟨sent, houtbox, -⟩ := hworked.sent
  rw [hsettle]
  show b₁.outbox.settle.gate.flush = b.outbox.gate.flush
  rw [Outbox.flush_settle, houtbox]
  rfl

/-- Tasks and time leave it as it is, too. -/
theorem steady_flush : Steady fun b b' => b'.outbox.gate.flush = b.outbox.gate.flush where
  refl := fun _ => rfl
  trans := fun h h' => h'.trans h
  settle := flush_settle
  clock := fun _ _ => rfl

/-! ## Deadline -/

/-- The time at which a shutdown that begins now gives up. -/
def deadline (b : Bridge) : Nat := b.now + b.config.flushTimeout.toNat * 1000

theorem le_deadline (b : Bridge) : b.beginShutdown.now ≤ b.deadline := Nat.le_add_right _ _

theorem shutdown_eq (b : Bridge) : b.shutdown
    = (b.beginShutdown.flushUntil b.deadline).2.finishShutdown
      (b.beginShutdown.flushUntil b.deadline).1 := rfl

theorem now_finishShutdown (b : Bridge) (answer : Except Error Unit) :
    (b.finishShutdown answer).2.now = b.now := by
  cases answer with
  | error e => rfl
  | ok u => rfl

/-- **An awaited shutdown** is over at its deadline at the latest. -/
theorem shutdown_timely (b : Bridge) : b.shutdown.2.now ≤ b.deadline := by
  rw [shutdown_eq, now_finishShutdown]
  rcases flushUntil_cases b.beginShutdown b.deadline b.le_deadline with ⟨hnow, -⟩ | ⟨hnow, -⟩
  · exact hnow
  · exact Nat.le_of_eq hnow

theorem tryFlush_stalled (h : b.outbox.gate.flush = none) : b.tryFlush = none := by
  unfold tryFlush Outbox.tryFlush
  rw [h]
  split
  · rfl
  · rfl

/-- **A broker that stalls** makes a shutdown wait up to its deadline and fail there.  The timer and the
connection are gone, and the listeners stay. -/
theorem shutdown_stalled (h : b.outbox.gate.flush = none) :
    b.shutdown.1 = .error (.flushTimeout b.config.flushTimeout.toNat)
      ∧ b.shutdown.2.now = b.deadline ∧ b.shutdown.2.Halted ∧ b.shutdown.2.registry = b.registry := by
  have hpassed := steady_passed.flushUntil b.beginShutdown b.deadline
  have hflush := steady_flush.flushUntil b.beginShutdown b.deadline
  have hwaits := tryFlush_stalled (hflush.trans h)
  rcases flushUntil_cases b.beginShutdown b.deadline b.le_deadline with
    ⟨-, hanswer⟩ | ⟨hnow, -, htimeout⟩
  · rw [hwaits] at hanswer
    cases hanswer
  · have hconfig : (b.beginShutdown.flushUntil b.deadline).2.config = b.config := hpassed.config
    have hfailed : b.shutdown.1 = .error (.flushTimeout b.config.flushTimeout.toNat) := by
      rw [shutdown_eq, htimeout, hconfig]
      rfl
    obtain ⟨b', hsame, hpolling, hconnected, ⟨e, hshutdown⟩ | ⟨-, hdone⟩⟩ := shutdown_cases b
    · refine ⟨hfailed, ?_, ?_, ?_⟩
      · rw [shutdown_eq, now_finishShutdown, hnow]
      · rw [hshutdown]
        exact ⟨hpolling, hconnected⟩
      · rw [hshutdown]
        exact hsame.registry
    · rw [hdone] at hfailed
      cases hfailed

/-! ## Cuts -/

/-- The action lets tasks run or time pass. -/
def Action.waits : Action → Bool
  | .settle => true
  | .jump _ => true
  | _ => false

/-- To set the clock to a later time is to let time pass. -/
theorem jump_to {t : Nat} (h : b.now ≤ t) : b.act (.jump (t - b.now)) = { b with now := t } := by
  show ({ b with now := b.now + (t - b.now) } : Bridge) = { b with now := t }
  rw [Nat.add_sub_cancel' h]

theorem settle_jump {t : Nat} (h : b.now ≤ t) :
    b.actAll [.settle, .jump (t - b.now)] = { b.settle with now := t } := by
  have hnow : b.settle.now = b.now := (settle_keeps b).2.1
  show b.settle.act (.jump (t - b.now)) = _
  rw [← hnow] at h ⊢
  exact jump_to h

/-- What is reached by waiting from a later time is reached by waiting. -/
theorem waits_settle_jump {b' : Bridge} {t : Nat} (h : b.now ≤ t)
    (hrest : ∃ waits : List Action, waits.all Action.waits = true
      ∧ b' = ({ b.settle with now := t } : Bridge).actAll waits) :
    ∃ waits : List Action, waits.all Action.waits = true ∧ b' = b.actAll waits := by
  obtain ⟨waits, hwaits, hend⟩ := hrest
  refine ⟨.settle :: .jump (t - b.now) :: waits, hwaits, hend.trans ?_⟩
  rw [← settle_jump h]
  rfl

/-- A flush that waits lets tasks run and time pass, in turn. -/
theorem flushUntil_waits (b : Bridge) (deadline : Nat) : ∃ waits : List Action,
    waits.all Action.waits = true ∧ (b.flushUntil deadline).2 = b.actAll waits := by
  fun_induction flushUntil b deadline with
  | case1 b answer hanswer => exact ⟨[], rfl, rfl⟩
  | case2 b hnone hlt next answer hanswer => exact ⟨[.settle], rfl, rfl⟩
  | case3 b hnone hlt next hnone' hstop ih => exact waits_settle_jump (Nat.le_of_lt hlt) ih
  | case4 b hnone hlt next hnone' stop hstop hbefore ih =>
    exact waits_settle_jump (Nat.le_of_lt hbefore.1) ih
  | case5 b hnone hlt next hnone' stop hstop hbefore ih =>
    exact waits_settle_jump (Nat.le_of_lt hlt) ih
  | case6 b hnone hlt => exact ⟨[], rfl, rfl⟩

/-- Where a flush that waits has got to, a look ends the shutdown as the flush does. -/
theorem act_endShutdown (b : Bridge) {deadline : Nat} (h : b.now ≤ deadline) :
    (b.flushUntil deadline).2.act .endShutdown
      = ((b.flushUntil deadline).2.finishShutdown (b.flushUntil deadline).1).2 := by
  unfold act
  dsimp only
  rcases flushUntil_cases b deadline h with ⟨-, hanswer⟩ | ⟨-, hwaits, htimeout⟩
  · rw [hanswer]
  · rw [hwaits, htimeout]
    rfl

/-- **An awaited shutdown** is one that is cut at its flush, with tasks and time in between. -/
theorem shutdown_eq_cut (b : Bridge) : ∃ waits : List Action, waits.all Action.waits = true
    ∧ b.shutdown.2 = b.actAll (.beginShutdown :: (waits ++ [.endShutdown])) := by
  obtain ⟨waits, hwaits, hflush⟩ := flushUntil_waits b.beginShutdown b.deadline
  refine ⟨waits, hwaits, ?_⟩
  have hlook := act_endShutdown b.beginShutdown b.le_deadline
  rw [shutdown_eq, ← hlook, hflush]
  exact (List.foldl_concat act b.beginShutdown .endShutdown waits).symm

end Bridge

end FieldBridge
