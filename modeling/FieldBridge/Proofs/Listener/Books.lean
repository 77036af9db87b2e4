/-
  Who is registered, said in two ways.

  A registry keeps a list of the handles that are registered and a flag on every entry ever made.  The list
  is what a delivery copies, the flag is what it looks at when it comes to an entry, so the two have to say
  the same at any time, also between the steps of deliveries that are suspended inside one another.

  1. **Removals** — a removal succeeds for a handle that is registered, hence exactly the first time that it
     is asked for after the handle was given out (`found_iff_first`); so no handle is removed twice
     (`nodup_removed`).

  2. **A registry by its history** — the current list is ascending, since handles are numbered as they are
     given out; the flags say who is on it; and its length is the number of listeners added less those
     removed (`Holds.size_add`).

  3. **One removal** leaves every other entry and the order of the list (`Registry.leaves_remove`).

  4. **Books** (`books_run`) — in every state of every run.
-/

import Mathlib.Data.List.Nodup
import FieldBridge.Proofs.Listener.Delivery

namespace FieldBridge

/-! ## Removals -/

namespace Delivery.History

variable {κ ε : Type} {h : History κ ε}

/-- Before a place, somebody asked to remove a handle that had been given out. -/
def AskedBefore (h : History κ ε) (place : Nat) (id : ListenerId) : Prop :=
  ∃ earlier found, earlier < place ∧ h[earlier]? = some (.removed id found)
    ∧ id ∈ (added (h.take earlier)).map (·.1)

/-- A handle that is registered somewhere has been added and not removed. -/
theorem mem_registeredAt {place : Nat} {id : ListenerId} : id ∈ h.registeredAt place
    ↔ id ∈ (added (h.take place)).map (·.1) ∧ id ∉ removed (h.take place) := by
  simp [registeredAt, Registry.registered]

/-- What was removed before a place was removed at an earlier one. -/
theorem exists_of_mem_removed {place : Nat} {id : ListenerId} (hid : id ∈ removed (h.take place)) :
    ∃ earlier < place, h[earlier]? = some (.removed id true) := by
  obtain ⟨m, hm, hremoved⟩ := List.mem_filterMap.1 hid
  obtain ⟨earlier, hearlier⟩ := List.mem_iff_getElem?.1 hm
  have hlt : earlier < place := by
    have hlength := (List.getElem?_eq_some_iff.1 hearlier).1
    rw [List.length_take] at hlength
    omega
  refine ⟨earlier, hlt, ?_⟩
  rw [List.getElem?_take_of_lt hlt] at hearlier
  rw [hearlier]
  cases m with
  | removed other found =>
    cases found with
    | true =>
      obtain rfl : other = id := Option.some.inj hremoved
      rfl
    | false => exact absurd hremoved (by simp)
  | added | began | reached | ended => exact absurd hremoved (by simp)

/-- **Removals** succeed exactly the first time that they are asked for after the handle was given out. -/
theorem Sound.found_iff_first (hs : h.Sound) {place : Nat} {id : ListenerId} {found : Bool}
    (hm : h[place]? = some (.removed id found)) :
    found = true ↔ id ∈ (added (h.take place)).map (·.1) ∧ ¬ h.AskedBefore place id := by
  rw [hs.found place id found hm, decide_eq_true_iff, mem_registeredAt]
  refine and_congr_right fun _ => not_congr ?_
  constructor
  · intro hremoved
    obtain ⟨earlier, hlt, hearlier⟩ := exists_of_mem_removed hremoved
    have hregistered : id ∈ h.registeredAt earlier :=
      of_decide_eq_true (hs.found earlier id true hearlier).symm
    exact ⟨earlier, true, hlt, hearlier, (mem_registeredAt.1 hregistered).1⟩
  · rintro ⟨earlier, found', hlt, hearlier, hadded⟩
    exact hs.mem_removed hearlier hadded hlt

/-- No handle is removed twice. -/
theorem Sound.nodup_removed (hs : h.Sound) (place : Nat) : (removed (h.take place)).Nodup := by
  induction place with
  | zero => exact List.nodup_nil
  | succ place ih =>
    rw [List.take_add_one]
    cases hm : h[place]? with
    | none => simpa using ih
    | some m =>
      rw [Option.toList_some, removed_snoc]
      cases m with
      | removed id found =>
        cases found with
        | true =>
          have hregistered : id ∈ h.registeredAt place :=
            of_decide_eq_true (hs.found place id true hm).symm
          have hnew := (mem_registeredAt.1 hregistered).2
          exact List.nodup_append.2 ⟨ih, List.nodup_singleton id, fun a ha b hb hab =>
            hnew ((hab.trans (List.mem_singleton.1 hb)) ▸ ha)⟩
        | false => simpa [removed] using ih
      | added | began | reached | ended => simpa [removed] using ih

end Delivery.History

/-! ## A registry by its history -/

namespace Registry

variable {κ : Type} {r : Registry κ} {added : List (ListenerId × κ)} {removed : List ListenerId}

/-- Handles are listed in the order of their numbers. -/
theorem Holds.ascending (h : r.Holds added removed) :
    r.current.Pairwise fun a b => a.number < b.number := by
  have hnumbers : ((added.map (·.1)).map (·.number)).Pairwise (· < ·) := by
    rw [List.map_map]
    show (added.map (·.1.number)).Pairwise (· < ·)
    rw [h.numbers]
    exact List.pairwise_lt_range'
  rw [h.current]
  exact (List.pairwise_map.1 hnumbers).sublist List.filter_sublist

/-- Every listener added has its entry. -/
theorem Holds.map_added (h : r.Holds added removed) :
    r.added.map (fun e => (e.id, e.listener)) = added := by
  rw [h.entries, List.map_map]
  exact List.map_id added

/-- The flag of an entry says whether its handle is listed. -/
theorem Holds.active_iff (h : r.Holds added removed) {e : Entry κ} (he : e ∈ r.added) :
    e.id ∈ r.current ↔ e.active = true := by
  rw [h.entries] at he
  obtain ⟨p, hp, rfl⟩ := List.mem_map.1 he
  rw [h.current, mem_registered]
  show _ ↔ decide (p.1 ∉ removed) = true
  rw [decide_eq_true_iff]
  exact and_iff_right ⟨p.2, hp⟩

/-- Of distinct handles, those listed and those removed make up all that were added. -/
theorem Holds.size_add (h : r.Holds added removed) (hremoved : removed.Nodup) :
    r.size + removed.length = added.length := by
  have hgone : ((added.map (·.1)).filter (· ∈ removed)).Perm removed := by
    rw [List.perm_ext_iff_of_nodup (h.nodup.filter _) hremoved]
    intro id
    rw [List.mem_filter, decide_eq_true_iff]
    exact ⟨fun hid => hid.2, fun hid => ⟨h.known id hid, hid⟩⟩
  have hsplit := List.length_eq_length_filter_add (l := added.map (·.1)) fun id => decide (id ∈ removed)
  have hkept : (added.map (·.1)).filter (fun id => !decide (id ∈ removed)) = r.current := by
    rw [h.current, registered]
    refine List.filter_congr fun id _ => ?_
    simp
  rw [hgone.length_eq, hkept, List.length_map] at hsplit
  rw [size, hsplit, Nat.add_comm]

/-! ## One removal -/

/-- What is left after a removal: the list without the handle, and every entry in its place, all but that
of the handle as they were. -/
structure Leaves (id : ListenerId) (r r' : Registry κ) : Prop where
  current : r'.current = r.current.filter (· ≠ id)
  entries : List.Forall₂ (fun e e' => e'.id = e.id ∧ e'.listener = e.listener ∧ (e.id ≠ id → e' = e))
    r.added r'.added
  next : r'.nextNumber = r.nextNumber

/-- **One removal** changes one entry. -/
theorem leaves_remove (r : Registry κ) (id : ListenerId) : r.Leaves id (r.remove id).2 := by
  unfold remove
  split
  · refine ⟨rfl, ?_, rfl⟩
    show List.Forall₂ _ r.added (r.added.map (deactivate id))
    rw [List.forall₂_map_right_iff, List.forall₂_same]
    intro e _
    unfold deactivate
    split
    · rename_i heq
      exact ⟨rfl, rfl, fun hne => absurd heq hne⟩
    · exact ⟨rfl, rfl, fun _ => rfl⟩
  · rename_i hcontains
    refine ⟨?_, ?_, rfl⟩
    · symm
      refine List.filter_eq_self.2 fun other hother => decide_eq_true fun heq => ?_
      exact hcontains (List.contains_iff_mem.2 (heq ▸ hother))
    · rw [List.forall₂_same]
      exact fun e _ => ⟨rfl, rfl, fun _ => rfl⟩

end Registry

/-! ## Books -/

namespace Delivering

open Delivery

variable {κ ε : Type} {s : Delivering κ ε}

/-- The two books of a registry agree with each other and with what has happened. -/
structure Books (s : Delivering κ ε) : Prop where
  /-- Registered handles are listed in the order in which they were given out. -/
  ascending : s.dispatch.registry.current.Pairwise fun a b => a.number < b.number
  /-- No handle is given out twice. -/
  once : (s.history.added.map (·.1)).Nodup
  /-- There is an entry for every listener ever added. -/
  entries : s.dispatch.registry.added.map (fun e => (e.id, e.listener)) = s.history.added
  /-- Only handles that were given out are listed. -/
  listed : ∀ id ∈ s.dispatch.registry.current, id ∈ s.history.added.map (·.1)
  /-- An entry is listed if its flag is set, and not otherwise. -/
  flags : ∀ e ∈ s.dispatch.registry.added, e.id ∈ s.dispatch.registry.current ↔ e.active = true
  /-- A removal succeeds exactly the first time that it is asked for. -/
  first : ∀ place id found, s.history[place]? = some (.removed id found) →
    (found = true ↔ id ∈ (History.added (s.history.take place)).map (·.1)
      ∧ ¬ s.history.AskedBefore place id)
  /-- A removal leaves all other entries and the order of the list. -/
  rest : ∀ id, s.dispatch.registry.Leaves id (s.step (.remove id)).dispatch.registry
  /-- As many are registered as were added, less those removed. -/
  size : s.dispatch.registry.size + s.history.removed.length = s.history.added.length

theorem Inv.books (hs : s.Inv) : s.Books where
  ascending := hs.holds.ascending
  once := hs.holds.nodup
  entries := hs.holds.map_added
  listed := by
    intro id hid
    rw [hs.holds.current] at hid
    exact List.mem_of_mem_filter hid
  flags := fun _ he => hs.holds.active_iff he
  first := fun _ _ _ hm => hs.sound.found_iff_first hm
  rest := s.dispatch.registry.leaves_remove
  size := by
    have hremoved := hs.sound.nodup_removed s.history.length
    rw [List.take_length] at hremoved
    exact hs.holds.size_add hremoved

/-- **Books**: whatever listeners do while they are called, and to any depth, the list of the registered
handles and the flags of the entries say the same, and what the history says. -/
theorem books_run (events : List (Event κ ε)) : (run {} events).Books :=
  (inv_empty.run events).books

/-- A listener removes itself and then another twice, in a delivery inside a delivery. -/
example : let s : Delivering String Nat := run {} [.add "a", .add "b", .deliver 1, .advance, .deliver 2,
      .advance, .remove ⟨1⟩, .remove ⟨2⟩, .add "c", .remove ⟨2⟩]
    s.dispatch.registry.current = [⟨3⟩]
      ∧ s.dispatch.registry.added.map (·.active) = [false, false, true]
      ∧ s.history.removed = [⟨1⟩, ⟨2⟩] ∧ s.dispatch.deliveries.length = 2 := by
  decide

end Delivering

end FieldBridge
