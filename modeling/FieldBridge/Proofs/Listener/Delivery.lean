/-
  Deliveries inside deliveries.

  1. **Runs** — a listener that is called may add, remove and deliver, and so may the listeners of a
     delivery that it begins.  So a run is any list of events, each an addition, a removal, the beginning of
     a delivery inside those in progress, or an advance of the innermost one.  `Delivering` keeps their
     history; a place in it tells one delivery from another.

  2. **History** — who was registered at a place is read off the additions and removals before it
     (`registeredAt`); what a delivery has come to, off its own marks (`reachedBy`).

  3. **Walks** — the list that a delivery copied is what was registered where it began, whatever has been
     added or removed since: first the listeners it has come to, then those that remain (`Walks`).  That
     holds of every delivery on the stack at once, and coming to a listener keeps it (`Inv.reach`).

  4. **Exactness** (`exact_history`) — a delivery comes to the listeners that were registered when it
     began, in order and once each, and calls those that are not removed by then.
-/

import Mathlib.Data.List.Forall2
import FieldBridge.Proofs.Listener.Registry

namespace FieldBridge

/-! ## Runs -/

/-- An entry of the history of a registry. -/
inductive Delivery.Mark (κ ε : Type) where
  | added (id : ListenerId) (listener : κ)
  | removed (id : ListenerId) (found : Bool)
  | began (event : ε)
  /-- The delivery that began at the place has come to a listener, and has called it or passed it by. -/
  | reached (place : Nat) (id : ListenerId) (call : Option (Dispatch.Call κ ε))
  /-- The delivery that began at the place has no listener left. -/
  | ended (place : Nat)

/-- What has happened to a registry, oldest first. -/
abbrev Delivery.History (κ ε : Type) := List (Delivery.Mark κ ε)

/-- A registry with deliveries in progress, and what has happened. -/
structure Delivering (κ ε : Type) where
  dispatch : Dispatch κ ε := {}
  /-- Where the deliveries in progress began, innermost first. -/
  begun : List Nat := []
  history : Delivery.History κ ε := []

/-- What can happen next, whether a listener does it or somebody outside. -/
inductive Delivering.Event (κ ε : Type) where
  | add (listener : κ)
  | remove (id : ListenerId)
  | deliver (event : ε)
  /-- The innermost delivery goes on to the next listener that it calls, or ends. -/
  | advance

namespace Delivering

variable {κ ε : Type}

/-- An advance: the listeners passed by, and then the one that is called or the end. -/
def advance (s : Delivering κ ε) : Delivering κ ε :=
  match s.begun, s.dispatch.deliveries with
  | place :: outer, walk :: _ =>
    let pass := fun id => Delivery.Mark.reached place id none
    match s.dispatch.advance with
    | (some call, dispatch) => { s with
        dispatch
        history := s.history ++ (walk.remaining.takeWhile (· ≠ call.id)).map pass
          ++ [.reached place call.id (some call)] }
    | (none, dispatch) => { s with
        dispatch
        begun := outer
        history := s.history ++ walk.remaining.map pass ++ [.ended place] }
  | _, _ => s

/-- One event. -/
def step (s : Delivering κ ε) : Event κ ε → Delivering κ ε
  | .add listener =>
    let (id, dispatch) := s.dispatch.add listener
    { s with dispatch, history := s.history ++ [.added id listener] }
  | .remove id =>
    let (found, dispatch) := s.dispatch.remove id
    { s with dispatch, history := s.history ++ [.removed id found] }
  | .deliver event => {
      dispatch := s.dispatch.deliver event
      begun := s.history.length :: s.begun
      history := s.history ++ [.began event] }
  | .advance => s.advance

/-- A run. -/
def run (s : Delivering κ ε) (events : List (Event κ ε)) : Delivering κ ε := events.foldl step s

end Delivering

/-! ## History -/

namespace Delivery.History

variable {κ ε : Type}

/-- The listeners added, with their handles. -/
def added (h : History κ ε) : List (ListenerId × κ) :=
  h.filterMap fun
    | .added id listener => some (id, listener)
    | _ => none

/-- The handles removed. -/
def removed (h : History κ ε) : List ListenerId :=
  h.filterMap fun
    | .removed id true => some id
    | _ => none

/-- Who was registered at a place, in order of registration. -/
def registeredAt (h : History κ ε) (place : Nat) : List ListenerId :=
  Registry.registered (added (h.take place)) (removed (h.take place))

/-- The listeners that the delivery begun at a place has come to, in that order. -/
def reachedBy (h : History κ ε) (place : Nat) : List ListenerId :=
  h.filterMap fun
    | .reached p id _ => if p = place then some id else none
    | _ => none

/-- What a delivery does at a listener: it calls the one that was added under the handle before the
delivery began, unless the handle has been removed by now. -/
def Calls (h : History κ ε) (now place : Nat) (id : ListenerId) (call : Option (Dispatch.Call κ ε)) :
    Prop :=
  ∃ event listener, h[place]? = some (.began event) ∧ place < now
    ∧ (id, listener) ∈ added (h.take place)
    ∧ call = if id ∈ removed (h.take now) then none else some ⟨id, listener, event⟩

variable (h : History κ ε) (m : Mark κ ε)

/-! ### One more mark -/

theorem added_snoc : added (h ++ [m]) = h.added ++ added [m] := List.filterMap_append

theorem removed_snoc : removed (h ++ [m]) = h.removed ++ removed [m] := List.filterMap_append

theorem reachedBy_snoc (place : Nat) :
    reachedBy (h ++ [m]) place = h.reachedBy place ++ reachedBy [m] place := List.filterMap_append

theorem take_snoc {place : Nat} (hplace : place ≤ h.length) : (h ++ [m]).take place = h.take place :=
  List.take_append_of_le_length hplace

theorem registeredAt_snoc {place : Nat} (hplace : place ≤ h.length) :
    registeredAt (h ++ [m]) place = h.registeredAt place := by
  rw [registeredAt, take_snoc h m hplace]
  rfl

theorem registeredAt_length : h.registeredAt h.length = Registry.registered h.added h.removed := by
  rw [registeredAt, List.take_length]

variable {h m}

theorem lt_of_getElem? {place : Nat} {m' : Mark κ ε} (hm : h[place]? = some m') : place < h.length :=
  (List.getElem?_eq_some_iff.1 hm).1

theorem getElem?_snoc_of_some {place : Nat} {m' : Mark κ ε} (hm : h[place]? = some m') :
    (h ++ [m])[place]? = some m' := by
  rw [List.getElem?_append_left (lt_of_getElem? hm)]
  exact hm

/-- A delivery that has come to all goes on having done so. -/
theorem complete_snoc {place : Nat} (hplace : place < h.length) (hother : reachedBy [m] place = [])
    (hall : h.reachedBy place = h.registeredAt place) :
    reachedBy (h ++ [m]) place = registeredAt (h ++ [m]) place := by
  rw [reachedBy_snoc, hother, List.append_nil, registeredAt_snoc h m (Nat.le_of_lt hplace)]
  exact hall

/-- What one delivery comes to is not reached by another. -/
theorem reachedBy_other {place other : Nat} (hne : place ≠ other) (id : ListenerId)
    (call : Option (Dispatch.Call κ ε)) : reachedBy [Mark.reached place id call] other = [] := by
  simp [reachedBy, hne]

/-- What stands at a place stood there before, or is the new mark. -/
theorem getElem?_snoc {place : Nat} {m' : Mark κ ε} (hm : (h ++ [m])[place]? = some m') :
    h[place]? = some m' ∨ place = h.length ∧ m' = m := by
  rcases Nat.lt_or_ge place h.length with hlt | hge
  · rw [List.getElem?_append_left hlt] at hm
    exact Or.inl hm
  · rw [List.getElem?_append_right hge] at hm
    obtain ⟨hzero, hm'⟩ := List.getElem?_eq_some_iff.1 hm
    rw [List.length_singleton] at hzero
    refine Or.inr ⟨by omega, ?_⟩
    rw [← hm', List.getElem_singleton]

theorem Calls.snoc {now place : Nat} {id : ListenerId} {call : Option (Dispatch.Call κ ε)}
    (hc : h.Calls now place id call) (hnow : now ≤ h.length) : (h ++ [m]).Calls now place id call := by
  obtain ⟨event, listener, hbegan, hlt, hadded, hcall⟩ := hc
  refine ⟨event, listener, getElem?_snoc_of_some hbegan, hlt, ?_, ?_⟩
  · rw [take_snoc h m (by omega)]
    exact hadded
  · rw [take_snoc h m hnow]
    exact hcall

/-- Every listener that a delivery comes to is called or passed by as it should, and a removal succeeds for
exactly the handles registered. -/
structure Sound (h : History κ ε) : Prop where
  calls : ∀ now place id call, h[now]? = some (.reached place id call) → h.Calls now place id call
  found : ∀ now id found, h[now]? = some (.removed id found) → found = decide (id ∈ h.registeredAt now)

theorem Sound.snoc (hs : h.Sound)
    (hcalls : ∀ place id call, m = .reached place id call → h.Calls h.length place id call)
    (hfound : ∀ id found, m = .removed id found → found = decide (id ∈ h.registeredAt h.length)) :
    Sound (h ++ [m]) where
  calls := by
    intro now place id call hm
    rcases getElem?_snoc hm with hold | ⟨rfl, hnew⟩
    · exact (hs.calls now place id call hold).snoc (Nat.le_of_lt (lt_of_getElem? hold))
    · exact (hcalls place id call hnew.symm).snoc (Nat.le_refl _)
  found := by
    intro now id found hm
    rcases getElem?_snoc hm with hold | ⟨rfl, hnew⟩
    · rw [registeredAt_snoc h m (Nat.le_of_lt (lt_of_getElem? hold))]
      exact hs.found now id found hold
    · rw [registeredAt_snoc h m (Nat.le_refl _)]
      exact hfound id found hnew.symm

/-- Nothing is reached by a delivery that has not begun. -/
theorem Sound.reachedBy_length (hs : h.Sound) : h.reachedBy h.length = [] := by
  refine List.filterMap_eq_nil_iff.2 fun m hm => ?_
  cases m with
  | reached place id call =>
    obtain ⟨now, hnow⟩ := List.mem_iff_getElem?.1 hm
    obtain ⟨-, -, -, hlt, -⟩ := hs.calls now place id call hnow
    have hnow' := lt_of_getElem? hnow
    exact if_neg (by omega)
  | added | removed | began | ended => rfl

/-- A delivery in progress: what it copied is what was registered where it began. -/
def Walks (h : History κ ε) (place : Nat) (walk : Delivery ε) : Prop :=
  h[place]? = some (.began walk.event) ∧ h.registeredAt place = h.reachedBy place ++ walk.remaining

/-- A mark of another delivery, or of none, does not matter. -/
theorem Walks.snoc {place : Nat} {walk : Delivery ε} (hw : h.Walks place walk)
    (hother : reachedBy [m] place = []) : (h ++ [m]).Walks place walk := by
  refine ⟨getElem?_snoc_of_some hw.1, ?_⟩
  rw [registeredAt_snoc h m (Nat.le_of_lt (lt_of_getElem? hw.1)), reachedBy_snoc, hother, List.append_nil]
  exact hw.2

/-- Coming to the next listener. -/
theorem Walks.reach {place : Nat} {event : ε} {id : ListenerId} {rest : List ListenerId}
    (hw : h.Walks place ⟨event, id :: rest⟩) (call : Option (Dispatch.Call κ ε)) :
    (h ++ [Mark.reached place id call]).Walks place ⟨event, rest⟩ := by
  refine ⟨getElem?_snoc_of_some hw.1, ?_⟩
  have hown : reachedBy [Mark.reached place id call] place = [id] := by simp [reachedBy]
  rw [registeredAt_snoc h _ (Nat.le_of_lt (lt_of_getElem? hw.1)), reachedBy_snoc, hown, List.append_assoc]
  exact hw.2

end Delivery.History

/-! ## Walks -/

/-- What `next?` skips, and what it stops at. -/
theorem Dispatch.next?_cases {κ : Type} (r : Registry κ) (remaining : List ListenerId) :
    (next? r remaining = none ∧ ∀ id ∈ remaining, r.active? id = none)
    ∨ ∃ before id listener rest, next? r remaining = some (id, listener, rest)
      ∧ remaining = before ++ id :: rest ∧ (∀ id' ∈ before, r.active? id' = none)
      ∧ r.active? id = some listener := by
  induction remaining with
  | nil => exact Or.inl ⟨rfl, fun id hid => absurd hid List.not_mem_nil⟩
  | cons id rest ih =>
    rw [next?]
    cases hactive : r.active? id with
    | some listener => exact Or.inr ⟨[], id, listener, rest, rfl, rfl, by simp, hactive⟩
    | none =>
      rcases ih with ⟨hnone, hall⟩ | ⟨before, id', listener, rest', hnext, rfl, hbefore, hactive'⟩
      · exact Or.inl ⟨hnone, List.forall_mem_cons.2 ⟨hactive, hall⟩⟩
      · exact Or.inr ⟨id :: before, id', listener, rest', hnext, rfl,
          List.forall_mem_cons.2 ⟨hactive, hbefore⟩, hactive'⟩

namespace Delivering

open Delivery

variable {κ ε : Type}

/-- The registry holds what the history says, and so do the deliveries. -/
structure Inv (s : Delivering κ ε) : Prop where
  holds : s.dispatch.registry.Holds s.history.added s.history.removed
  sound : s.history.Sound
  walks : List.Forall₂ s.history.Walks s.begun s.dispatch.deliveries
  /-- No delivery is in progress twice. -/
  nodup : s.begun.Nodup
  /-- A delivery that is no longer in progress has come to all that were registered. -/
  past : ∀ place event, s.history[place]? = some (.began event) → place ∉ s.begun →
    s.history.reachedBy place = s.history.registeredAt place
  ended : ∀ place, .ended place ∈ s.history →
    place ∉ s.begun ∧ ∃ event, s.history[place]? = some (.began event)

variable {s : Delivering κ ε}

/-- The deliveries in progress have begun. -/
theorem Inv.lt_length (hs : s.Inv) : ∀ place ∈ s.begun, place < s.history.length := by
  have hboth : List.Forall₂ (fun place walk => place < s.history.length ∧ s.history.Walks place walk)
      s.begun s.dispatch.deliveries :=
    hs.walks.imp fun place walk hw => ⟨History.lt_of_getElem? hw.1, hw⟩
  exact ((List.forall₂_and_left _ _).1 hboth).1

/-- A mark that adds and removes nothing leaves the books as they are. -/
theorem Inv.holds_snoc (hs : s.Inv) {m : Mark κ ε} (hadded : History.added [m] = [])
    (hremoved : History.removed [m] = []) : s.dispatch.registry.Holds
      (History.added (s.history ++ [m])) (History.removed (s.history ++ [m])) := by
  rw [History.added_snoc, History.removed_snoc, hadded, hremoved, List.append_nil, List.append_nil]
  exact hs.holds

/-- What a mark has to keep that neither begins nor ends a delivery. -/
theorem Inv.mark (hs : s.Inv) {d : Dispatch κ ε} {m : Mark κ ε}
    (hbegan : ∀ event, m ≠ .began event) (hended : ∀ place, m ≠ .ended place)
    (hpast : ∀ place ∉ s.begun, History.reachedBy [m] place = [])
    (hholds : d.registry.Holds (History.added (s.history ++ [m])) (History.removed (s.history ++ [m])))
    (hsound : History.Sound (s.history ++ [m]))
    (hwalks : List.Forall₂ (History.Walks (s.history ++ [m])) s.begun d.deliveries) :
    Inv { s with dispatch := d, history := s.history ++ [m] } where
  holds := hholds
  sound := hsound
  walks := hwalks
  nodup := hs.nodup
  past := by
    intro place event hm hplace
    rcases History.getElem?_snoc hm with hold | ⟨-, hnew⟩
    · have hall := hs.past place event hold hplace
      exact History.complete_snoc (History.lt_of_getElem? hold) (hpast place hplace) hall
    · exact absurd hnew.symm (hbegan event)
  ended := by
    intro place hm
    rcases List.mem_append.1 hm with hold | hnew
    · obtain ⟨hplace, event, hbegun⟩ := hs.ended place hold
      exact ⟨hplace, event, History.getElem?_snoc_of_some hbegun⟩
    · exact absurd (List.mem_singleton.1 hnew).symm (hended place)

/-- A listener that is added is on the list of no delivery in progress. -/
theorem Inv.add (hs : s.Inv) (listener : κ) : (s.step (.add listener)).Inv := by
  have hadded : History.added (s.history ++ [.added ⟨s.dispatch.registry.nextNumber⟩ listener])
      = s.history.added ++ [(⟨s.dispatch.registry.nextNumber⟩, listener)] := History.added_snoc _ _
  have hremoved : History.removed (s.history ++ [.added ⟨s.dispatch.registry.nextNumber⟩ listener])
      = s.history.removed := by
    rw [History.removed_snoc]
    exact List.append_nil _
  refine hs.mark (by simp) (by simp) (fun _ _ => rfl) ?_ ?_ ?_
  · rw [hadded, hremoved]
    exact hs.holds.add listener
  · exact hs.sound.snoc (by simp) (by simp)
  · exact hs.walks.imp fun place walk hw => hw.snoc rfl

/-- A removal leaves the lists of the deliveries in progress as they are. -/
theorem Inv.remove (hs : s.Inv) (id : ListenerId) : (s.step (.remove id)).Inv := by
  obtain ⟨hfound, hholds⟩ := hs.holds.remove id
  have hadded : History.added (s.history ++ [.removed id (s.dispatch.registry.remove id).1])
      = s.history.added := by
    rw [History.added_snoc]
    exact List.append_nil _
  have hremoved : History.removed (s.history ++ [.removed id (s.dispatch.registry.remove id).1])
      = s.history.removed ++ if (s.dispatch.registry.remove id).1 then [id] else [] := by
    rw [History.removed_snoc]
    cases (s.dispatch.registry.remove id).1 <;> rfl
  show Inv { s with
    dispatch := { s.dispatch with registry := (s.dispatch.registry.remove id).2 }
    history := s.history ++ [.removed id (s.dispatch.registry.remove id).1] }
  refine hs.mark (by simp) (by simp) (fun _ _ => rfl) ?_ ?_ ?_
  · rw [hadded, hremoved]
    exact hholds
  · refine hs.sound.snoc (by simp) ?_
    rintro id' found heq
    cases heq
    rw [hfound, History.registeredAt_length]
  · exact hs.walks.imp fun place walk hw => hw.snoc rfl

/-- A new delivery copies the list that is current. -/
theorem Inv.deliver (hs : s.Inv) (event : ε) : (s.step (.deliver event)).Inv := by
  have hfresh : s.history.length ∉ s.begun := fun hmem => Nat.lt_irrefl _ (hs.lt_length _ hmem)
  show Inv {
    dispatch := { s.dispatch with
      deliveries := ⟨event, s.dispatch.registry.current⟩ :: s.dispatch.deliveries }
    begun := s.history.length :: s.begun
    history := s.history ++ [.began event] }
  refine ⟨hs.holds_snoc rfl rfl, hs.sound.snoc (by simp) (by simp), ?_, ?_, ?_, ?_⟩
  · refine List.Forall₂.cons ⟨List.getElem?_concat_length, ?_⟩ ?_
    · rw [History.registeredAt_snoc _ _ (Nat.le_refl _), History.registeredAt_length,
        History.reachedBy_snoc, hs.sound.reachedBy_length]
      exact hs.holds.current.symm
    · exact hs.walks.imp fun place walk hw => hw.snoc rfl
  · exact List.nodup_cons.2 ⟨hfresh, hs.nodup⟩
  · intro place event' hm hplace
    rcases History.getElem?_snoc hm with hold | ⟨heq, -⟩
    · have hall := hs.past place event' hold (List.not_mem_of_not_mem_cons hplace)
      exact History.complete_snoc (History.lt_of_getElem? hold) rfl hall
    · exact absurd heq (List.ne_of_not_mem_cons hplace)
  · intro place hm
    rcases List.mem_append.1 hm with hold | hnew
    · obtain ⟨hplace, event', hbegun⟩ := hs.ended place hold
      have hlt := History.lt_of_getElem? hbegun
      exact ⟨List.not_mem_cons_of_ne_of_not_mem (Nat.ne_of_lt hlt) hplace, event',
        History.getElem?_snoc_of_some hbegun⟩
    · exact absurd (List.mem_singleton.1 hnew) (by simp)

/-! ### An advance -/

variable {place : Nat} {places : List Nat} {event : ε} {outer : List (Delivery ε)}

/-- The innermost delivery walks what was registered where it began, and is none of those further out. -/
theorem Inv.innermost {remaining : List ListenerId} (hs : s.Inv) (hbegun : s.begun = place :: places)
    (hwalk : s.dispatch.deliveries = ⟨event, remaining⟩ :: outer) :
    s.history.Walks place ⟨event, remaining⟩ ∧ List.Forall₂ s.history.Walks places outer
      ∧ place ∉ places ∧ places.Nodup := by
  have hwalks := hs.walks
  have hnodup := hs.nodup
  rw [hbegun, hwalk, List.forall₂_cons] at hwalks
  rw [hbegun, List.nodup_cons] at hnodup
  exact ⟨hwalks.1, hwalks.2, hnodup⟩

/-- At its next listener the flag says whether the handle has been removed. -/
theorem Inv.calls (hs : s.Inv) {id : ListenerId} {rest : List ListenerId}
    (hw : s.history.Walks place ⟨event, id :: rest⟩) :
    s.history.Calls s.history.length place id
      ((s.dispatch.registry.active? id).map fun listener => ⟨id, listener, event⟩) := by
  obtain ⟨hbegan, hregistered⟩ := hw
  have hmem : id ∈ s.history.registeredAt place := by
    rw [hregistered]
    exact List.mem_append_right _ List.mem_cons_self
  obtain ⟨⟨listener, hadded⟩, -⟩ := Registry.mem_registered.1 hmem
  have hknown : (id, listener) ∈ s.history.added :=
    ((List.take_prefix _ _).filterMap _).subset hadded
  refine ⟨event, listener, hbegan, History.lt_of_getElem? hbegan, hadded, ?_⟩
  rw [List.take_length]
  by_cases hgone : id ∈ s.history.removed
  · rw [if_pos hgone, (hs.holds.active?_eq_none (List.mem_map_of_mem hknown)).2 hgone]
    rfl
  · rw [if_neg hgone, hs.holds.active?_eq_some.2 ⟨hknown, hgone⟩]
    rfl

/-- The innermost delivery comes to its next listener, which it calls if its flag is set. -/
theorem Inv.reach (hs : s.Inv) {id : ListenerId} {rest : List ListenerId}
    (hbegun : s.begun = place :: places) (hwalk : s.dispatch.deliveries = ⟨event, id :: rest⟩ :: outer) :
    Inv { s with
      dispatch := { s.dispatch with deliveries := ⟨event, rest⟩ :: outer }
      history := s.history ++ [.reached place id
        ((s.dispatch.registry.active? id).map fun listener => ⟨id, listener, event⟩)] } := by
  obtain ⟨hown, houter, hne, -⟩ := hs.innermost hbegun hwalk
  refine hs.mark (by simp) (by simp) ?_ (hs.holds_snoc rfl rfl) ?_ ?_
  · intro p hp
    rw [hbegun] at hp
    exact History.reachedBy_other (Ne.symm (List.ne_of_not_mem_cons hp)) id _
  · refine hs.sound.snoc ?_ (by simp)
    rintro p id' call heq
    cases heq
    exact hs.calls hown
  · rw [hbegun]
    refine List.Forall₂.cons (hown.reach _) ?_
    -- the deliveries further out stay where they are
    have hother : List.Forall₂ (fun p walk => p ∈ places ∧ s.history.Walks p walk) places outer :=
      (List.forall₂_and_left _ _).2 ⟨fun p hp => hp, houter⟩
    refine hother.imp fun p walk hw => hw.2.snoc ?_
    have hne' : place ≠ p := fun heq => hne (heq ▸ hw.1)
    exact History.reachedBy_other hne' id _

/-- It passes by all whose flag is cleared. -/
theorem Inv.pass {before rest : List ListenerId} (hs : s.Inv) (hbegun : s.begun = place :: places)
    (hwalk : s.dispatch.deliveries = ⟨event, before ++ rest⟩ :: outer)
    (hbefore : ∀ id ∈ before, s.dispatch.registry.active? id = none) :
    Inv { s with
      dispatch := { s.dispatch with deliveries := ⟨event, rest⟩ :: outer }
      history := s.history ++ before.map fun id => .reached place id none } := by
  induction before generalizing s with
  | nil =>
    obtain ⟨⟨registry, deliveries⟩, begun, history⟩ := s
    obtain rfl : deliveries = ⟨event, rest⟩ :: outer := hwalk
    rw [List.map_nil, List.append_nil]
    exact hs
  | cons id before ih =>
    have hnext := hs.reach hbegun hwalk
    rw [hbefore id List.mem_cons_self] at hnext
    have hrest := ih hnext hbegun rfl fun id' hid' => hbefore id' (List.mem_cons_of_mem _ hid')
    simpa using hrest

/-- It ends when no listener remains. -/
theorem Inv.finish (hs : s.Inv) (hbegun : s.begun = place :: places)
    (hwalk : s.dispatch.deliveries = ⟨event, []⟩ :: outer) :
    Inv {
      dispatch := { s.dispatch with deliveries := outer }
      begun := places
      history := s.history ++ [.ended place] } := by
  obtain ⟨⟨hbegan, hregistered⟩, houter, hne, hnodup⟩ := hs.innermost hbegun hwalk
  refine ⟨hs.holds_snoc rfl rfl, hs.sound.snoc (by simp) (by simp), ?_, hnodup, ?_, ?_⟩
  · exact houter.imp fun p walk hw => hw.snoc rfl
  · intro p event' hm hp
    rcases History.getElem?_snoc hm with hold | ⟨-, hnew⟩
    · refine History.complete_snoc (History.lt_of_getElem? hold) rfl ?_
      by_cases heq : p = place
      · -- nothing remains, so it has come to all
        rw [heq, hregistered]
        exact (List.append_nil _).symm
      · refine hs.past p event' hold ?_
        rw [hbegun]
        exact List.not_mem_cons_of_ne_of_not_mem heq hp
    · exact absurd hnew (by simp)
  · intro p hm
    rcases List.mem_append.1 hm with hold | hnew
    · obtain ⟨hp, event', hbegun'⟩ := hs.ended p hold
      rw [hbegun] at hp
      exact ⟨List.not_mem_of_not_mem_cons hp, event', History.getElem?_snoc_of_some hbegun'⟩
    · cases List.mem_singleton.1 hnew
      exact ⟨hne, event, History.getElem?_snoc_of_some hbegan⟩

/-- It passes by some listeners, and then calls one or ends. -/
theorem Inv.advance (hs : s.Inv) : s.advance.Inv := by
  unfold Delivering.advance
  split
  · rename_i place outer walk walks hbegun hwalk
    obtain ⟨event, remaining⟩ := walk
    simp only [Dispatch.advance, hwalk]
    rcases Dispatch.next?_cases s.dispatch.registry remaining with
      ⟨hnone, hall⟩ | ⟨before, id, listener, rest, hnext, rfl, hbefore, hactive⟩
    · rw [hnone]
      have hpassed := hs.pass hbegun (by rw [hwalk, List.append_nil]) hall
      exact hpassed.finish hbegun rfl
    · rw [hnext]
      have hpassed := hs.pass hbegun hwalk hbefore
      have hreached := hpassed.reach hbegun rfl
      -- the listener that is called stops the walk, and none of those before it does
      have htake : (before ++ id :: rest).takeWhile (· ≠ id) = before := by
        have hne : ∀ id' ∈ before, decide (id' ≠ id) = true := by
          intro id' hid'
          refine decide_eq_true fun heq => ?_
          rw [← heq, hbefore id' hid'] at hactive
          exact absurd hactive (by simp)
        rw [List.takeWhile_append_of_pos hne]
        simp
      simp only [hactive] at hreached
      simp only [htake]
      exact hreached
  · exact hs

/-- **Step**: every event keeps the walks. -/
theorem Inv.step (hs : s.Inv) (event : Event κ ε) : (s.step event).Inv := by
  cases event with
  | add listener => exact hs.add listener
  | remove id => exact hs.remove id
  | deliver event => exact hs.deliver event
  | advance => exact hs.advance

/-- **Run**: every run keeps them. -/
theorem Inv.run (hs : s.Inv) (events : List (Event κ ε)) : (s.run events).Inv := by
  induction events generalizing s with
  | nil => exact hs
  | cons event rest ih => exact ih (hs.step event)

theorem inv_empty : Inv ({} : Delivering κ ε) where
  holds := Registry.holds_empty
  sound := ⟨by simp, by simp⟩
  walks := List.Forall₂.nil
  nodup := List.nodup_nil
  past := by simp
  ended := by simp

end Delivering

/-! ## Exactness -/

namespace Delivery.History

variable {κ ε : Type} {h : History κ ε}

/-- Every delivery in a history comes to whom it should, and calls whom it should. -/
structure Exact (h : History κ ε) : Prop where
  /-- A delivery comes to those who were registered when it began, in order and at most once each. -/
  order : ∀ place event, h[place]? = some (.began event) →
    h.reachedBy place <+: h.registeredAt place ∧ (h.registeredAt place).Nodup
  /-- When it ends it has come to all of them. -/
  complete : ∀ place, .ended place ∈ h → h.reachedBy place = h.registeredAt place
  /-- It calls those who are not removed by then, and passes the others by. -/
  calls : ∀ now place id call, h[now]? = some (.reached place id call) → h.Calls now place id call
  /-- Nobody is reached by a delivery that had begun when they were added. -/
  late : ∀ (now place i : Nat) id call listener, h[now]? = some (.reached place id call) →
    h[i]? = some (.added id listener) → i < place
  /-- Once a listener has been removed, no delivery calls it again. -/
  gone : ∀ (now place i : Nat) id call found, h[now]? = some (.reached place id (some call)) →
    h[i]? = some (.removed id found) → id ∈ (added (h.take i)).map (·.1) → now < i

/-- What was added before a place, the listener added there, and the others. -/
theorem added_split {i : Nat} {id : ListenerId} {listener : κ}
    (hm : h[i]? = some (.added id listener)) :
    h.added = added (h.take i) ++ (id, listener) :: added (h.drop (i + 1)) := by
  obtain ⟨hi, heq⟩ := List.getElem?_eq_some_iff.1 hm
  have hsplit : h = h.take i ++ .added id listener :: h.drop (i + 1) := by
    rw [← heq, ← List.drop_eq_getElem_cons hi, List.take_append_drop]
  have hadded : h.added = added (h.take i ++ .added id listener :: h.drop (i + 1)) := by rw [← hsplit]
  rw [hadded, added, List.filterMap_append]
  rfl

theorem Sound.late (hs : h.Sound) (hnodup : (h.added.map (·.1)).Nodup) {now place i : Nat}
    {id : ListenerId} {call : Option (Dispatch.Call κ ε)} {listener : κ}
    (hreached : h[now]? = some (.reached place id call)) (hadded : h[i]? = some (.added id listener)) :
    i < place := by
  obtain ⟨event, listener', -, -, hbefore, -⟩ := hs.calls now place id call hreached
  by_contra hle
  have hold : (id, listener') ∈ added (h.take i) :=
    ((List.take_prefix_take_left (Nat.not_lt.1 hle)).filterMap _).subset hbefore
  rw [added_split hadded, List.map_append, List.map_cons] at hnodup
  have hdisjoint := (List.nodup_append.1 hnodup).2.2
  exact hdisjoint id (List.mem_map_of_mem hold) id List.mem_cons_self rfl

/-- What has been returned by a removal has been removed, then or before. -/
theorem Sound.mem_removed (hs : h.Sound) {i now : Nat} {id : ListenerId} {found : Bool}
    (hm : h[i]? = some (.removed id found)) (hadded : id ∈ (added (h.take i)).map (·.1)) (hlt : i < now) :
    id ∈ removed (h.take now) := by
  cases found with
  | true =>
    have hmem : Mark.removed id true ∈ h.take now := by
      refine List.mem_iff_getElem?.2 ⟨i, ?_⟩
      rw [List.getElem?_take_of_lt hlt]
      exact hm
    exact List.mem_filterMap.2 ⟨_, hmem, rfl⟩
  | false =>
    have hnot : id ∉ h.registeredAt i := of_decide_eq_false (hs.found i id false hm).symm
    have hearlier : id ∈ removed (h.take i) := by
      by_contra hno
      obtain ⟨p, hp, rfl⟩ := List.mem_map.1 hadded
      exact hnot (Registry.mem_registered.2 ⟨⟨p.2, hp⟩, hno⟩)
    exact ((List.take_prefix_take_left (Nat.le_of_lt hlt)).filterMap _).subset hearlier

theorem Sound.gone (hs : h.Sound) {now place i : Nat} {id : ListenerId} {call : Dispatch.Call κ ε}
    {found : Bool} (hreached : h[now]? = some (.reached place id (some call)))
    (hm : h[i]? = some (.removed id found)) (hadded : id ∈ (added (h.take i)).map (·.1)) : now < i := by
  by_contra hle
  have hne : i ≠ now := by
    rintro rfl
    rw [hreached] at hm
    exact absurd hm (by simp)
  have hlt : i < now := by omega
  have hremoved := hs.mem_removed hm hadded hlt
  obtain ⟨event, listener, -, -, -, hcall⟩ := hs.calls now place id (some call) hreached
  rw [if_pos hremoved] at hcall
  exact absurd hcall (by simp)

end Delivery.History

namespace Delivering

open Delivery

variable {κ ε : Type} {s : Delivering κ ε}

/-- Those registered at a place are distinct. -/
theorem Inv.nodup_registeredAt (hs : s.Inv) (place : Nat) : (s.history.registeredAt place).Nodup := by
  have hearlier : History.added (s.history.take place) <+: s.history.added :=
    (List.take_prefix _ _).filterMap _
  exact Registry.nodup_registered (hs.holds.nodup.sublist (hearlier.map _).sublist) _

theorem Inv.exact (hs : s.Inv) : s.history.Exact where
  order := by
    intro place event hbegan
    refine ⟨?_, hs.nodup_registeredAt place⟩
    by_cases hplace : place ∈ s.begun
    · have hwalks : List.Forall₂ (fun place walk => s.history.reachedBy place
            <+: s.history.registeredAt place ∧ s.history.Walks place walk)
          s.begun s.dispatch.deliveries :=
        hs.walks.imp fun place walk hw => ⟨⟨walk.remaining, hw.2.symm⟩, hw⟩
      exact ((List.forall₂_and_left _ _).1 hwalks).1 place hplace
    · refine ⟨[], ?_⟩
      rw [List.append_nil]
      exact hs.past place event hbegan hplace
  complete := by
    intro place hended
    obtain ⟨hplace, event, hbegan⟩ := hs.ended place hended
    exact hs.past place event hbegan hplace
  calls := hs.sound.calls
  late := fun _ _ _ _ _ _ hreached hadded => hs.sound.late hs.holds.nodup hreached hadded
  gone := fun _ _ _ _ _ _ hreached hm hadded => hs.sound.gone hreached hm hadded

/-- The first listener delivers an event of its own, within which the second is removed and another added:
neither delivery calls the second, and the new one is reached by neither. -/
example : let s : Delivering String Nat := run {} [.add "a", .add "b", .deliver 1, .advance, .deliver 2,
      .advance, .remove ⟨2⟩, .add "c", .advance, .advance]
    s.history.reachedBy 2 = [⟨1⟩, ⟨2⟩] ∧ s.history.reachedBy 4 = [⟨1⟩, ⟨2⟩]
      ∧ s.history.removed = [⟨2⟩] ∧ s.begun = [] := by
  decide

end Delivering

end FieldBridge
