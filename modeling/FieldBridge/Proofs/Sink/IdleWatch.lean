/-
  Waiting until nothing is in flight.

  1. **Steps** — a step is a batch of actions at once, after which every task runs until it waits.  Inside
     a batch the counter may pass zero and rise again, any number of times; only where a batch ends is it
     looked at.

  2. **Readiness** — whenever the counter is at zero, every waiting task is awake (`Ready.act`): it has
     just been spawned, or the end that took the counter there has woken it.  So at a batch that ends at
     zero nobody is left behind, and at any other batch the awake tasks look and go back to sleep.

  3. **Exactness** (`exact_run`) — a task is done exactly if the counter was at zero at the end of its own
     step or of a later one.
-/

import Mathlib.Data.List.Induction
import FieldBridge.Sink.InFlight

namespace FieldBridge.IdleWatch

/-! ## Steps -/

/-- One step. -/
def step (w : IdleWatch) (actions : List Action) : IdleWatch := (w.batch actions).settle

/-- A run. -/
def run (w : IdleWatch) (steps : List (List Action)) : IdleWatch := steps.foldl step w

/-- The tasks that actions spawn. -/
def spawns (actions : List Action) : List String :=
  actions.filterMap fun
    | .wait name => some name
    | _ => none

/-- The tasks spawned in a run, each with the number of its step, oldest first. -/
def spawned (steps : List (List Action)) : List (Nat × String) :=
  steps.zipIdx.flatMap fun (actions, i) => (spawns actions).map fun name => (i, name)

/-- At the end of some step no earlier than `i` the counter was at zero. -/
def IdleSince (steps : List (List Action)) (i : Nat) : Prop :=
  ∃ j < steps.length, i ≤ j ∧ (run {} (steps.take (j + 1))).flight.count = 0

instance (steps : List (List Action)) (i : Nat) : Decidable (IdleSince steps i) :=
  inferInstanceAs (Decidable (∃ j < steps.length,
    i ≤ j ∧ (run {} (steps.take (j + 1))).flight.count = 0))

variable {w : IdleWatch}

/-! ## Batches -/

/-- An action spawns its tasks behind those that wait. -/
theorem names_act (w : IdleWatch) (a : Action) :
    (w.act a).waiters.map (·.name) = w.waiters.map (·.name) ++ spawns [a] := by
  have hfinish : ∀ w : IdleWatch, w.finish.waiters.map (·.name) = w.waiters.map (·.name) := by
    intro w
    unfold finish
    split
    · simp [Function.comp_def]
    · rfl
  cases a with
  | start => simp [act, start, spawns]
  | finish => simpa [act, spawns] using hfinish w
  | track guard =>
    simp only [act]
    split
    · simpa [start, spawns] using hfinish { w.start with guards := _ }
    · simp [start, spawns]
  | drop guard =>
    simp only [act]
    split
    · simpa [spawns] using hfinish w
    · simp [spawns]
  | wait name => simp [act, spawns]

/-- No task is done before the batch has ended. -/
theorem done_act (w : IdleWatch) (a : Action) : (w.act a).done = w.done := by
  cases a with
  | start | finish | wait => rfl
  | track guard =>
    simp only [act]
    split <;> rfl
  | drop guard =>
    simp only [act]
    split <;> rfl

theorem names_batch (w : IdleWatch) (actions : List Action) :
    (w.batch actions).waiters.map (·.name) = w.waiters.map (·.name) ++ spawns actions := by
  induction actions generalizing w with
  | nil => simp [batch, spawns]
  | cons a rest ih =>
    have hsplit : spawns (a :: rest) = spawns [a] ++ spawns rest := by
      rw [← List.singleton_append, spawns, List.filterMap_append]
      rfl
    show ((w.act a).batch rest).waiters.map (·.name) = _
    rw [ih, names_act, hsplit, List.append_assoc]

theorem done_batch (w : IdleWatch) (actions : List Action) : (w.batch actions).done = w.done := by
  induction actions generalizing w with
  | nil => rfl
  | cons a rest ih => exact (ih (w.act a)).trans (w.done_act a)

/-- At zero every waiting task is awake. -/
def Ready (w : IdleWatch) : Prop := w.flight.count = 0 → ∀ t ∈ w.waiters, t.awake = true

/-- A start takes the counter off zero. -/
theorem ready_start (w : IdleWatch) (guards : List String) :
    Ready { w.start with guards := guards } := by
  intro hzero
  exact absurd hzero (Nat.succ_ne_zero _)

/-- The end that takes the counter to zero wakes every task; at zero they are awake already. -/
theorem Ready.finish (h : w.Ready) (guards : List String) :
    Ready { w.finish with guards := guards } := by
  intro hzero t ht
  have hcount : w.flight.count - 1 = 0 := hzero
  have hwakes : t ∈ (if w.flight.wakes then w.waiters.map fun t => { t with awake := true }
      else w.waiters) := ht
  by_cases hone : w.flight.count = 1
  · have hlast : w.flight.wakes = true := beq_iff_eq.2 hone
    rw [if_pos hlast] at hwakes
    obtain ⟨t', -, rfl⟩ := List.mem_map.1 hwakes
    rfl
  · have hnotlast : ¬ w.flight.wakes = true := fun hlast => hone (beq_iff_eq.1 hlast)
    rw [if_neg hnotlast] at hwakes
    exact h (by omega) t hwakes

/-- **Readiness**: every action keeps it. -/
theorem Ready.act (h : w.Ready) (a : Action) : (w.act a).Ready := by
  cases a with
  | start => exact w.ready_start w.guards
  | finish => exact h.finish w.guards
  | track guard =>
    simp only [IdleWatch.act]
    split
    · exact (w.ready_start _).finish _
    · exact w.ready_start _
  | drop guard =>
    simp only [IdleWatch.act]
    split
    · exact h.finish _
    · exact h
  | wait name =>
    intro hzero t ht
    rcases List.mem_append.1 ht with hold | hnew
    · exact h hzero t hold
    · obtain rfl := List.mem_singleton.1 hnew
      rfl

theorem Ready.batch (h : w.Ready) (actions : List Action) : (w.batch actions).Ready := by
  induction actions generalizing w with
  | nil => exact h
  | cons a rest ih => exact ih (h.act a)

/-! ## Settling -/

/-- Every task waits: all are asleep, and there is none if nothing is in flight. -/
structure Settled (w : IdleWatch) : Prop where
  asleep : ∀ t ∈ w.waiters, t.awake = false
  idle : w.flight.count = 0 → w.waiters = []

theorem Settled.ready (h : w.Settled) : w.Ready := by
  intro hzero t ht
  rw [h.idle hzero] at ht
  exact absurd ht List.not_mem_nil

theorem flight_settle (w : IdleWatch) : w.settle.flight = w.flight := by
  unfold settle
  split <;> rfl

/-- At zero every task is done. -/
theorem Ready.settle_idle (h : w.Ready) (hzero : w.flight.count = 0) :
    w.settle.waiters = [] ∧ w.settle.done = w.done ++ w.waiters.map (·.name) := by
  have hidle : w.flight.isIdle = true := beq_iff_eq.2 hzero
  have hnone : w.waiters.filter (fun t => !t.awake) = [] := by
    refine List.filter_eq_nil_iff.2 fun t ht => ?_
    rw [h hzero t ht]
    decide
  have hall : w.waiters.filter (·.awake) = w.waiters := List.filter_eq_self.2 (h hzero)
  rw [settle, if_pos hidle]
  refine ⟨hnone, ?_⟩
  show w.done ++ (w.waiters.filter (·.awake)).map (·.name) = _
  rw [hall]

/-- Above zero every task goes on waiting, whether it was woken or not. -/
theorem settle_busy (hbusy : w.flight.count ≠ 0) : w.settle.done = w.done
    ∧ w.settle.waiters.map (·.name) = w.waiters.map (·.name)
    ∧ ∀ t ∈ w.settle.waiters, t.awake = false := by
  have hidle : ¬ w.flight.isIdle = true := fun hidle => hbusy (beq_iff_eq.1 hidle)
  rw [settle, if_neg hidle]
  refine ⟨rfl, ?_, ?_⟩
  · simp [Function.comp_def]
  · intro t ht
    obtain ⟨t', -, rfl⟩ := List.mem_map.1 ht
    rfl

theorem Ready.settled (h : w.Ready) : w.settle.Settled := by
  by_cases hzero : w.flight.count = 0
  · obtain ⟨hnone, -⟩ := h.settle_idle hzero
    refine ⟨fun t ht => ?_, fun _ => hnone⟩
    rw [hnone] at ht
    exact absurd ht List.not_mem_nil
  · obtain ⟨-, -, hasleep⟩ := settle_busy hzero
    refine ⟨hasleep, fun hzero' => ?_⟩
    rw [flight_settle] at hzero'
    exact absurd hzero' hzero

/-! ## Runs -/

variable {steps : List (List Action)}

theorem run_snoc (w : IdleWatch) (steps : List (List Action)) (actions : List Action) :
    w.run (steps ++ [actions]) = (w.run steps).step actions := by
  rw [run, List.foldl_append]
  rfl

theorem spawned_snoc (steps : List (List Action)) (actions : List Action) :
    spawned (steps ++ [actions])
      = spawned steps ++ (spawns actions).map fun name => (steps.length, name) := by
  rw [spawned, List.zipIdx_append, List.flatMap_append]
  simp [spawned]

theorem lt_of_mem_spawned {t : Nat × String} (h : t ∈ spawned steps) : t.1 < steps.length := by
  obtain ⟨x, hx, ht⟩ := List.mem_flatMap.1 h
  obtain ⟨name, -, rfl⟩ := List.mem_map.1 ht
  have hlt := (List.mem_zipIdx hx).2.1
  show x.2 < steps.length
  omega

/-- One more step matters by whether the counter is at zero at its end. -/
theorem idleSince_snoc (steps : List (List Action)) (actions : List Action) (i : Nat) :
    IdleSince (steps ++ [actions]) i ↔ IdleSince steps i
      ∨ i ≤ steps.length ∧ (run {} (steps ++ [actions])).flight.count = 0 := by
  have htake : ∀ j < steps.length, (steps ++ [actions]).take (j + 1) = steps.take (j + 1) :=
    fun j hj => List.take_append_of_le_length hj
  have hwhole : (steps ++ [actions]).take (steps.length + 1) = steps ++ [actions] :=
    List.take_of_length_le (by simp)
  constructor
  · rintro ⟨j, hj, hij, hidle⟩
    rw [List.length_append, List.length_singleton] at hj
    rcases Nat.lt_or_eq_of_le (Nat.le_of_lt_succ hj) with hlt | rfl
    · rw [htake j hlt] at hidle
      exact Or.inl ⟨j, hlt, hij, hidle⟩
    · rw [hwhole] at hidle
      exact Or.inr ⟨hij, hidle⟩
  · rintro (⟨j, hj, hij, hidle⟩ | ⟨hi, hidle⟩)
    · refine ⟨j, ?_, hij, ?_⟩
      · rw [List.length_append]
        omega
      · rw [htake j hj]
        exact hidle
    · refine ⟨steps.length, by simp, hi, ?_⟩
      rw [hwhole]
      exact hidle

/-- The counter at the end of a step is the counter at the end of its batch. -/
theorem flight_run_snoc (steps : List (List Action)) (actions : List Action) :
    (run {} (steps ++ [actions])).flight = ((run {} steps).batch actions).flight := by
  rw [run_snoc]
  exact flight_settle _

/-- No task is done too early or left behind. -/
structure Exact (steps : List (List Action)) (w : IdleWatch) : Prop where
  /-- Those are done for whom the counter was at zero at the end of their own step or of a later one. -/
  done : w.done = ((spawned steps).filter fun t => decide (IdleSince steps t.1)).map (·.2)
  /-- All others wait. -/
  waiting : w.waiters.map (·.name)
    = ((spawned steps).filter fun t => !decide (IdleSince steps t.1)).map (·.2)
  /-- Tasks are done in the order in which they were spawned. -/
  order : w.done ++ w.waiters.map (·.name) = (spawned steps).map (·.2)
  /-- Those that wait have nothing to do. -/
  asleep : ∀ t ∈ w.waiters, t.awake = false
  /-- At zero nobody waits. -/
  idle : w.flight.count = 0 → w.waiters = []

variable {actions : List Action}

theorem Exact.ready (h : Exact steps (run {} steps)) (actions : List Action) :
    ((run {} steps).batch actions).Ready :=
  (Settled.ready ⟨h.asleep, h.idle⟩).batch actions

/-- The names of the tasks that a step spawns. -/
theorem names_new (i : Nat) (actions : List Action) :
    ((spawns actions).map fun name => (i, name)).map (·.2) = spawns actions := by
  simp [Function.comp_def]

/-- A step that ends at zero: all who were spawned so far are done. -/
theorem Exact.step_idle (h : Exact steps (run {} steps))
    (hzero : ((run {} steps).batch actions).flight.count = 0) :
    Exact (steps ++ [actions]) (run {} (steps ++ [actions])) := by
  have hready := h.ready actions
  obtain ⟨hwaiters, hdone⟩ := hready.settle_idle hzero
  have hsince : ∀ t ∈ spawned (steps ++ [actions]), IdleSince (steps ++ [actions]) t.1 := by
    intro t ht
    have hlt := lt_of_mem_spawned ht
    rw [List.length_append, List.length_singleton] at hlt
    refine (idleSince_snoc steps actions t.1).2 (Or.inr ⟨Nat.le_of_lt_succ hlt, ?_⟩)
    rw [flight_run_snoc]
    exact hzero
  have hall : (spawned (steps ++ [actions])).filter
      (fun t => decide (IdleSince (steps ++ [actions]) t.1)) = spawned (steps ++ [actions]) :=
    List.filter_eq_self.2 fun t ht => decide_eq_true (hsince t ht)
  have hnone : (spawned (steps ++ [actions])).filter
      (fun t => !decide (IdleSince (steps ++ [actions]) t.1)) = [] :=
    List.filter_eq_nil_iff.2 fun t ht => by simp [hsince t ht]
  have hcomplete : ((run {} steps).batch actions).settle.done
      = (spawned (steps ++ [actions])).map (·.2) := by
    rw [hdone, done_batch, names_batch, ← List.append_assoc, h.order, spawned_snoc, List.map_append,
      names_new]
  rw [run_snoc]
  refine ⟨?_, ?_, ?_, hready.settled.asleep, hready.settled.idle⟩
  · rw [hall]
    exact hcomplete
  · rw [hnone]
    exact congrArg (List.map (·.name)) hwaiters
  · show ((run {} steps).batch actions).settle.done
      ++ ((run {} steps).batch actions).settle.waiters.map (·.name) = _
    rw [hwaiters, hcomplete, List.map_nil, List.append_nil]

/-- A step that ends above zero: nobody is done who was not, and the new tasks wait. -/
theorem Exact.step_busy (h : Exact steps (run {} steps))
    (hbusy : ((run {} steps).batch actions).flight.count ≠ 0) :
    Exact (steps ++ [actions]) (run {} (steps ++ [actions])) := by
  have hready := h.ready actions
  have hsince : ∀ i, IdleSince (steps ++ [actions]) i ↔ IdleSince steps i := by
    intro i
    rw [idleSince_snoc, flight_run_snoc]
    constructor
    · rintro (hold | ⟨-, hzero⟩)
      · exact hold
      · exact absurd hzero hbusy
    · exact Or.inl
  have hlate : ∀ t ∈ (spawns actions).map fun name => (steps.length, name), ¬ IdleSince steps t.1 := by
    intro t ht
    obtain ⟨name, -, rfl⟩ := List.mem_map.1 ht
    rintro ⟨j, hj, hle, -⟩
    exact Nat.not_lt.2 hle hj
  have hno : ((spawns actions).map fun name => (steps.length, name)).filter
      (fun t => decide (IdleSince steps t.1)) = [] :=
    List.filter_eq_nil_iff.2 fun t ht => by simp [hlate t ht]
  have hyes : ((spawns actions).map fun name => (steps.length, name)).filter
      (fun t => !decide (IdleSince steps t.1)) = (spawns actions).map fun name => (steps.length, name) :=
    List.filter_eq_self.2 fun t ht => by simp [hlate t ht]
  obtain ⟨hdone, hwaiters, -⟩ := settle_busy hbusy
  rw [done_batch] at hdone
  rw [names_batch] at hwaiters
  rw [run_snoc]
  refine ⟨?_, ?_, ?_, hready.settled.asleep, hready.settled.idle⟩
  · simp only [hsince, spawned_snoc, List.filter_append, List.map_append]
    rw [hno, List.map_nil, List.append_nil, ← h.done]
    exact hdone
  · simp only [hsince, spawned_snoc, List.filter_append, List.map_append]
    rw [hyes, names_new, ← h.waiting]
    exact hwaiters
  · show ((run {} steps).batch actions).settle.done
      ++ ((run {} steps).batch actions).settle.waiters.map (·.name) = _
    rw [hdone, hwaiters, ← List.append_assoc, h.order, spawned_snoc, List.map_append, names_new]

/-- **Exactness**: after any steps, a task is done if the counter was at zero at the end of its own step or
of a later one, and waits otherwise. -/
theorem exact_run (steps : List (List Action)) : Exact steps (run {} steps) := by
  induction steps using List.reverseRecOn with
  | nil => exact ⟨rfl, rfl, rfl, fun t ht => absurd ht List.not_mem_nil, fun _ => rfl⟩
  | append_singleton steps actions ih =>
    by_cases hzero : ((run {} steps).batch actions).flight.count = 0
    · exact ih.step_idle hzero
    · exact ih.step_busy hzero

/-- A waiter that the counter passes zero for inside a batch goes on waiting; at the end of the next batch
it is done, with one that has come in meanwhile. -/
example : (run {} [[.track "a", .wait "x"], [.drop "a", .start, .wait "y"]]).done = []
    ∧ (run {} [[.track "a", .wait "x"], [.drop "a", .start, .wait "y"], [.finish]]).done = ["x", "y"] := by
  decide

end FieldBridge.IdleWatch
