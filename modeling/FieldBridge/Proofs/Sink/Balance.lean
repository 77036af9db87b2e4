/-
  The balance of a counter.

  A counter goes up with every start and down with every end, but not below zero: an end that comes too
  early is forgotten.  So the count is not the number of starts less that of ends.

  1. **Moves** — what actions do to the counter: a guard starts an operation when it is made and ends it
     when it is dropped, and a name that is given to a new guard drops the old one.  Everything else about
     actions, and when the tasks run, does not matter (`flight_run`).

  2. **Specification** — the balance of some moves is the number of their starts less that of their ends,
     and the count has to be the greatest balance of all suffixes, the empty one among them (`balances`).

  3. **One more move** turns every suffix into a longer one and adds the empty one, so the greatest balance
     moves up or down by one and stops at zero (`isGreatest_snoc`).

  4. **Laws** (`balance_run`) — as long as no end comes too early, the count is the balance of all moves; and
     if only guards start and end operations, it is the number of guards.
-/

import Mathlib.Data.List.Induction
import Mathlib.Data.List.Infix
import Mathlib.Data.List.Nodup
import Mathlib.Order.Bounds.Basic
import FieldBridge.Proofs.Sink.IdleWatch

namespace FieldBridge

/-! ## Moves -/

/-- A move of a counter. -/
inductive InFlight.Move where
  | start
  | finish
  deriving DecidableEq, Repr

namespace InFlight

/-- Make a move. -/
def move (f : InFlight) : Move → InFlight
  | .start => f.start
  | .finish => f.finish

/-- The starts among some moves, less the ends. -/
def balance (moves : List Move) : Int := (moves.count .start : Int) - (moves.count .finish : Int)

/-- The balances of the suffixes of some moves. -/
def balances (moves : List Move) : Set Int := {b | ∃ suffix, suffix <:+ moves ∧ b = balance suffix}

end InFlight

namespace IdleWatch

open InFlight

/-- The moves that an action makes. -/
def movesOf (w : IdleWatch) : Action → List Move
  | .start => [.start]
  | .finish => [.finish]
  | .track guard => .start :: if w.guards.contains guard then [.finish] else []
  | .drop guard => if w.guards.contains guard then [.finish] else []
  | .wait _ => []

/-- The moves that actions make, one after another. -/
def moves (w : IdleWatch) : List Action → List Move
  | [] => []
  | a :: rest => w.movesOf a ++ (w.act a).moves rest

variable {w w' : IdleWatch}

/-- The same count and the same guards. -/
def SameCounter (w w' : IdleWatch) : Prop := w'.flight = w.flight ∧ w'.guards = w.guards

/-- The counter does not depend on the tasks that wait for it. -/
theorem SameCounter.act (h : SameCounter w w') (a : Action) : SameCounter (w.act a) (w'.act a) := by
  obtain ⟨hflight, hguards⟩ := h
  cases a with
  | start => exact ⟨congrArg InFlight.start hflight, hguards⟩
  | finish => exact ⟨congrArg InFlight.finish hflight, hguards⟩
  | track guard =>
    simp only [IdleWatch.act, hguards]
    split
    · exact ⟨congrArg (fun f => f.start.finish) hflight, rfl⟩
    · exact ⟨congrArg InFlight.start hflight, rfl⟩
  | drop guard =>
    simp only [IdleWatch.act, hguards]
    split
    · exact ⟨congrArg InFlight.finish hflight, rfl⟩
    · exact ⟨hflight, hguards⟩
  | wait name => exact ⟨hflight, hguards⟩

theorem SameCounter.batch (h : SameCounter w w') (actions : List Action) :
    SameCounter (w.batch actions) (w'.batch actions) := by
  induction actions generalizing w w' with
  | nil => exact h
  | cons a rest ih => exact ih (h.act a)

/-- When the tasks run does not matter to the counter. -/
theorem sameCounter_run (w : IdleWatch) (steps : List (List Action)) :
    SameCounter (w.batch steps.flatten) (w.run steps) := by
  induction steps generalizing w with
  | nil => exact ⟨rfl, rfl⟩
  | cons actions rest ih =>
    have hsettle : SameCounter (w.batch actions) (w.step actions) := by
      refine ⟨flight_settle _, ?_⟩
      show (w.batch actions).settle.guards = _
      unfold settle
      split <;> rfl
    have hflat : w.batch (actions :: rest).flatten = (w.batch actions).batch rest.flatten := by
      show (actions ++ rest.flatten).foldl IdleWatch.act w = _
      rw [List.foldl_append]
      rfl
    obtain ⟨hflight, hguards⟩ := hsettle.batch rest.flatten
    obtain ⟨hflight', hguards'⟩ := ih (w.step actions)
    rw [hflat]
    exact ⟨hflight'.trans hflight, hguards'.trans hguards⟩

/-- An action makes its moves. -/
theorem flight_act (w : IdleWatch) (a : Action) :
    (w.act a).flight = (w.movesOf a).foldl InFlight.move w.flight := by
  cases a with
  | start | finish | wait => rfl
  | track guard =>
    simp only [act, movesOf]
    split <;> rfl
  | drop guard =>
    simp only [act, movesOf]
    split <;> rfl

theorem flight_batch (w : IdleWatch) (actions : List Action) :
    (w.batch actions).flight = (w.moves actions).foldl InFlight.move w.flight := by
  induction actions generalizing w with
  | nil => rfl
  | cons a rest ih =>
    show ((w.act a).batch rest).flight = _
    rw [ih, flight_act, moves, List.foldl_append]

/-- The counter after a run has made the moves of all its actions. -/
theorem flight_run (steps : List (List Action)) :
    (run {} steps).flight = (moves {} steps.flatten).foldl InFlight.move {} := by
  rw [(sameCounter_run {} steps).1, flight_batch]

end IdleWatch

/-! ## The greatest balance -/

namespace InFlight

@[simp] theorem balance_nil : balance [] = 0 := rfl

/-- One more move. -/
theorem balance_snoc (moves : List Move) (m : Move) :
    balance (moves ++ [m]) = balance moves + balance [m] := by
  simp only [balance, List.count_append]
  omega

theorem balance_start : balance [.start] = 1 := rfl

theorem balance_finish : balance [.finish] = -1 := rfl

/-- A move changes the count by its balance and stops at zero. -/
theorem count_move (f : InFlight) (m : Move) :
    ((f.move m).count : Int) = max 0 ((f.count : Int) + balance [m]) := by
  cases m with
  | start =>
    show ((f.count + 1 : Nat) : Int) = max 0 ((f.count : Int) + balance [.start])
    rw [balance_start]
    omega
  | finish =>
    show ((f.count - 1 : Nat) : Int) = max 0 ((f.count : Int) + balance [.finish])
    rw [balance_finish]
    omega

/-- **One more move**: every suffix gets longer by it, and the empty one is new. -/
theorem isGreatest_snoc {moves : List Move} {b : Int} (h : IsGreatest (balances moves) b) (m : Move) :
    IsGreatest (balances (moves ++ [m])) (max 0 (b + balance [m])) := by
  obtain ⟨⟨best, hbest, rfl⟩, hupper⟩ := h
  constructor
  · rcases le_total (balance best + balance [m]) 0 with hle | hge
    · refine ⟨[], List.nil_suffix, ?_⟩
      rw [max_eq_left hle, balance_nil]
    · refine ⟨best ++ [m], List.suffix_concat_iff.2 (Or.inr ⟨best, rfl, hbest⟩), ?_⟩
      rw [max_eq_right hge, balance_snoc]
  · rintro b ⟨suffix, hsuffix, rfl⟩
    rcases List.suffix_concat_iff.1 hsuffix with rfl | ⟨shorter, rfl, hshorter⟩
    · exact le_max_left _ _
    · have hle : balance shorter ≤ balance best := hupper ⟨shorter, hshorter, rfl⟩
      rw [balance_snoc]
      omega

/-- **The count** is the greatest balance of all suffixes. -/
theorem isGreatest_count (moves : List Move) :
    IsGreatest (balances moves) ((moves.foldl move {}).count : Int) := by
  induction moves using List.reverseRecOn with
  | nil =>
    refine ⟨⟨[], List.nil_suffix, rfl⟩, ?_⟩
    rintro b ⟨suffix, hsuffix, rfl⟩
    rw [List.suffix_nil.1 hsuffix]
    exact le_refl 0
  | append_singleton moves m ih =>
    rw [List.foldl_append]
    show IsGreatest _ ((((moves.foldl move {}).move m).count : Nat) : Int)
    rw [count_move]
    exact isGreatest_snoc ih m

/-- No end comes too early: as many operations have begun before. -/
def Timely (moves : List Move) : Prop := ∀ early, early <+: moves → early.count .finish ≤ early.count .start

instance (moves : List Move) : Decidable (Timely moves) :=
  decidable_of_iff (∀ early ∈ moves.inits, early.count .finish ≤ early.count .start) (by
    simp only [Timely, List.mem_inits])

/-- As long as no end comes too early, no suffix has a greater balance than the whole. -/
theorem Timely.balance_le {moves : List Move} (h : Timely moves) {suffix : List Move}
    (hsuffix : suffix <:+ moves) : balance suffix ≤ balance moves := by
  obtain ⟨early, rfl⟩ := hsuffix
  have hearly := h early (List.prefix_append _ _)
  simp only [balance, List.count_append]
  omega

theorem Timely.count_eq {moves : List Move} (h : Timely moves) :
    ((moves.foldl move {}).count : Int) = balance moves := by
  have hwhole : IsGreatest (balances moves) (balance moves) := by
    refine ⟨⟨moves, List.suffix_refl _, rfl⟩, ?_⟩
    rintro b ⟨suffix, hsuffix, rfl⟩
    exact h.balance_le hsuffix
  exact (isGreatest_count moves).unique hwhole

end InFlight

/-! ## Guards -/

namespace IdleWatch

open InFlight

variable {w : IdleWatch}

/-- Operations are started and ended by guards only. -/
def Action.isGuarded : Action → Bool
  | .start | .finish => false
  | _ => true

/-- The operations in flight are those of the guards. -/
def Guarded (w : IdleWatch) : Prop := w.guards.Nodup ∧ w.flight.count = w.guards.length

/-- Taking out a guard that is there leaves one less. -/
theorem Guarded.length_without (h : w.Guarded) {guard : String} (hguard : guard ∈ w.guards) :
    (w.guards.filter (· ≠ guard)).length + 1 = w.guards.length := by
  have hfilter : w.guards.filter (· ≠ guard) = w.guards.erase guard := by
    rw [h.1.erase_eq_filter]
    refine List.filter_congr fun other _ => ?_
    simp [bne, beq_eq_decide]
  rw [hfilter]
  exact List.length_erase_add_one hguard

/-- Without the guard nothing is taken out. -/
theorem filter_of_notMem {guard : String} (hguard : guard ∉ w.guards) :
    w.guards.filter (· ≠ guard) = w.guards := by
  refine List.filter_eq_self.2 fun other hother => ?_
  exact decide_eq_true fun heq => hguard (heq ▸ hother)

/-- **Guards**: making and dropping them keeps the count. -/
theorem Guarded.act (h : w.Guarded) {a : Action} (ha : a.isGuarded = true) : (w.act a).Guarded := by
  obtain ⟨hnodup, hcount⟩ := h
  cases a with
  | start | finish => exact absurd ha (by decide)
  | wait name => exact ⟨hnodup, hcount⟩
  | track guard =>
    have hnew : (guard :: w.guards.filter (· ≠ guard)).Nodup :=
      List.nodup_cons.2 ⟨by simp, hnodup.filter _⟩
    by_cases hheld : guard ∈ w.guards
    · have hlength := Guarded.length_without ⟨hnodup, hcount⟩ hheld
      simp only [IdleWatch.act, List.contains_iff_mem.2 hheld, if_true]
      refine ⟨hnew, ?_⟩
      show w.flight.count + 1 - 1 = (w.guards.filter (· ≠ guard)).length + 1
      omega
    · have hcontains : ¬ w.guards.contains guard = true := fun h => hheld (List.contains_iff_mem.1 h)
      simp only [IdleWatch.act, if_neg hcontains]
      refine ⟨hnew, ?_⟩
      show w.flight.count + 1 = (w.guards.filter (· ≠ guard)).length + 1
      rw [filter_of_notMem hheld, hcount]
  | drop guard =>
    by_cases hheld : guard ∈ w.guards
    · have hlength := Guarded.length_without ⟨hnodup, hcount⟩ hheld
      simp only [IdleWatch.act, List.contains_iff_mem.2 hheld, if_true]
      refine ⟨hnodup.filter _, ?_⟩
      show w.flight.count - 1 = (w.guards.filter (· ≠ guard)).length
      omega
    · have hcontains : ¬ w.guards.contains guard = true := fun h => hheld (List.contains_iff_mem.1 h)
      simp only [IdleWatch.act, if_neg hcontains]
      exact ⟨hnodup, hcount⟩

theorem Guarded.batch (h : w.Guarded) {actions : List Action}
    (hactions : ∀ a ∈ actions, a.isGuarded = true) : (w.batch actions).Guarded := by
  induction actions generalizing w with
  | nil => exact h
  | cons a rest ih =>
    obtain ⟨ha, hrest⟩ := List.forall_mem_cons.1 hactions
    exact ih (h.act ha) hrest

/-! ## Laws -/

/-- **Balance**: after any actions, whenever the tasks ran, the count is the greatest balance of all suffixes
of what was done to the counter; it is the balance of the whole if no end came too early, and the number of
guards if only guards were used. -/
theorem balance_run (steps : List (List Action)) :
    IsGreatest (balances (moves {} steps.flatten)) ((run {} steps).flight.count : Int)
    ∧ (Timely (moves {} steps.flatten) →
      ((run {} steps).flight.count : Int) = balance (moves {} steps.flatten))
    ∧ ((∀ a ∈ steps.flatten, a.isGuarded = true) →
      (run {} steps).flight.count = (run {} steps).guards.length) := by
  refine ⟨?_, fun htimely => ?_, fun hguarded => ?_⟩
  · rw [flight_run]
    exact isGreatest_count _
  · rw [flight_run]
    exact htimely.count_eq
  · have hempty : Guarded {} := ⟨List.nodup_nil, rfl⟩
    obtain ⟨hflight, hguards⟩ := sameCounter_run {} steps
    rw [hflight, hguards]
    exact (hempty.batch hguarded).2

/-- Two guards of one name and one of another, with a task in between; then the first name is dropped
twice. -/
def guardsExample : List (List Action) :=
  [[.track "a", .track "b"], [.wait "w", .track "a"], [.drop "a", .drop "a"]]

theorem balance_guardsExample :
    moves {} guardsExample.flatten = [.start, .start, .start, .finish, .finish]
    ∧ Timely (moves {} guardsExample.flatten)
    ∧ ((run {} guardsExample).flight.count : Int) = balance (moves {} guardsExample.flatten)
    ∧ (∀ a ∈ guardsExample.flatten, a.isGuarded = true)
    ∧ (run {} guardsExample).flight.count = (run {} guardsExample).guards.length := by
  obtain ⟨-, htimely, hguarded⟩ := balance_run guardsExample
  exact ⟨by decide, by decide, htimely (by decide), by decide, hguarded (by decide)⟩

/-- An end that comes early is forgotten, a later one is not. -/
example : (run {} [[.finish, .start, .start], [.finish]]).flight.count = 1
    ∧ balance (moves {} [.finish, .start, .start, .finish]) = 0 := by
  decide

end IdleWatch

end FieldBridge
