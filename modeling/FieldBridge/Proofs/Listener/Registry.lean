/-
  The books of a registry.

  A registry says the same thing twice: the list of the registered handles, which a delivery copies when it
  begins, and the flag of each entry, which a delivery looks at when it comes to the entry.  Both are read
  off two lists that only grow, the listeners added and the handles removed (`Registry.Holds`):

  1. **Handles** are numbered in the order in which they were given out, so none is given out twice.

  2. **Flags** — an entry is active unless its handle was removed (`active?_eq_some`).

  3. **The current list** is what was added and not removed, in order; a removal succeeds for exactly the
     handles on it.
-/

import Mathlib.Data.List.Nodup
import FieldBridge.Listener.Registry

namespace FieldBridge.Registry

variable {κ : Type}

/-- The handles added and not removed, in the order in which they were added. -/
def registered (added : List (ListenerId × κ)) (removed : List ListenerId) : List ListenerId :=
  (added.map (·.1)).filter (· ∉ removed)

/-- A registry to which listeners were added, and from which handles were removed. -/
structure Holds (r : Registry κ) (added : List (ListenerId × κ)) (removed : List ListenerId) :
    Prop where
  next : r.nextNumber = added.length + 1
  numbers : added.map (·.1.number) = List.range' 1 added.length
  entries : r.added = added.map fun p => ⟨p.1, p.2, decide (p.1 ∉ removed)⟩
  known : ∀ id ∈ removed, id ∈ added.map (·.1)
  current : r.current = registered added removed

variable {r : Registry κ} {added : List (ListenerId × κ)} {removed : List ListenerId}

theorem holds_empty : Holds ({} : Registry κ) [] [] where
  next := rfl
  numbers := rfl
  entries := rfl
  known := fun _ hid => absurd hid List.not_mem_nil
  current := rfl

/-- No handle is given out twice. -/
theorem Holds.nodup (h : r.Holds added removed) : (added.map (·.1)).Nodup := by
  have hnumbers : ((added.map (·.1)).map (·.number)).Nodup := by
    rw [List.map_map]
    show (added.map (·.1.number)).Nodup
    rw [h.numbers]
    exact List.nodup_range'
  exact hnumbers.of_map

/-- The next handle is new. -/
theorem Holds.fresh (h : r.Holds added removed) : (⟨r.nextNumber⟩ : ListenerId) ∉ added.map (·.1) := by
  intro hmem
  have hnumber : r.nextNumber ∈ added.map (·.1.number) := by
    obtain ⟨p, hp, heq⟩ := List.mem_map.1 hmem
    exact List.mem_map.2 ⟨p, hp, congrArg ListenerId.number heq⟩
  rw [h.numbers, h.next] at hnumber
  have hrange := List.mem_range'_1.1 hnumber
  omega

/-- Nobody is registered twice. -/
theorem nodup_registered (h : (added.map (·.1)).Nodup) (removed : List ListenerId) :
    (registered added removed).Nodup :=
  h.filter _

theorem mem_registered {id : ListenerId} :
    id ∈ registered added removed ↔ (∃ listener, (id, listener) ∈ added) ∧ id ∉ removed := by
  simp [registered]

/-- A listener is added under a new handle, behind the others. -/
theorem Holds.add (h : r.Holds added removed) (listener : κ) :
    (r.add listener).2.Holds (added ++ [(⟨r.nextNumber⟩, listener)]) removed := by
  have hnew : (⟨r.nextNumber⟩ : ListenerId) ∉ removed := fun hmem => h.fresh (h.known _ hmem)
  refine ⟨?_, ?_, ?_, ?_, ?_⟩
  · show r.nextNumber + 1 = (added ++ [_]).length + 1
    rw [h.next, List.length_append]
    rfl
  · rw [List.map_append, h.numbers, List.length_append, List.range'_append_1.symm, h.next]
    rw [Nat.add_comm 1]
    rfl
  · show r.added ++ [⟨⟨r.nextNumber⟩, listener, true⟩] = _
    rw [List.map_append, h.entries]
    simp [hnew]
  · intro id hid
    rw [List.map_append]
    exact List.mem_append_left _ (h.known id hid)
  · show r.current ++ [⟨r.nextNumber⟩] = _
    rw [registered, List.map_append, List.filter_append, h.current, registered]
    simp [hnew]

/-- A handle is removed if it is registered. -/
theorem Holds.remove (h : r.Holds added removed) (id : ListenerId) :
    (r.remove id).1 = decide (id ∈ registered added removed)
    ∧ (r.remove id).2.Holds added (removed ++ if (r.remove id).1 then [id] else []) := by
  unfold Registry.remove
  by_cases hid : id ∈ registered added removed
  · have hcontains : r.current.contains id = true := by
      rw [h.current]
      exact List.contains_iff_mem.2 hid
    rw [if_pos hcontains]
    refine ⟨(decide_eq_true hid).symm, h.next, h.numbers, ?_, ?_, ?_⟩
    · show r.added.map (deactivate id) = _
      rw [h.entries, List.map_map]
      refine List.map_congr_left fun p _ => ?_
      by_cases hp : p.1 = id
      · simp [deactivate, hp]
      · simp [deactivate, hp]
    · intro other hother
      rcases List.mem_append.1 hother with hold | hnew
      · exact h.known other hold
      · obtain rfl := List.mem_singleton.1 hnew
        exact List.mem_of_mem_filter hid
    · show r.current.filter (· ≠ id) = _
      rw [h.current, registered, registered, List.filter_filter]
      refine List.filter_congr fun other _ => ?_
      simp [and_comm]
  · have hcontains : ¬ r.current.contains id = true := by
      rw [h.current]
      exact fun hcontains => hid (List.contains_iff_mem.1 hcontains)
    rw [if_neg hcontains]
    refine ⟨(decide_eq_false hid).symm, ?_⟩
    show r.Holds added (removed ++ [])
    rw [List.append_nil]
    exact h

/-- The listener behind a handle is the one that was added under it, as long as it was not removed. -/
theorem Holds.active?_eq_some (h : r.Holds added removed) {id : ListenerId} {listener : κ} :
    r.active? id = some listener ↔ (id, listener) ∈ added ∧ id ∉ removed := by
  have hfind : r.active? id
      = (added.find? fun p => decide (p.1 = id) && decide (p.1 ∉ removed)).map (·.2) := by
    rw [active?, h.entries, List.find?_map]
    simp [Function.comp_def]
  rw [hfind, Option.map_eq_some_iff]
  constructor
  · rintro ⟨p, hp, rfl⟩
    have hmem := List.mem_of_find?_eq_some hp
    have hcond := List.find?_some hp
    simp only [Bool.and_eq_true, decide_eq_true_eq] at hcond
    obtain ⟨rfl, hnot⟩ := hcond
    exact ⟨hmem, hnot⟩
  · rintro ⟨hmem, hnot⟩
    cases hp : added.find? fun p => decide (p.1 = id) && decide (p.1 ∉ removed) with
    | none =>
      have hcond := List.find?_eq_none.1 hp (id, listener) hmem
      exact absurd hnot (by simpa using hcond)
    | some p =>
      have hcond := List.find?_some hp
      simp only [Bool.and_eq_true, decide_eq_true_eq] at hcond
      -- each handle was given out once
      have heq := List.inj_on_of_nodup_map h.nodup (List.mem_of_find?_eq_some hp) hmem hcond.1
      exact ⟨p, rfl, congrArg Prod.snd heq⟩

/-- Of the handles given out, those removed have no listener any more. -/
theorem Holds.active?_eq_none (h : r.Holds added removed) {id : ListenerId}
    (hid : id ∈ added.map (·.1)) : r.active? id = none ↔ id ∈ removed := by
  obtain ⟨p, hp, rfl⟩ := List.mem_map.1 hid
  constructor
  · intro hnone
    by_contra hnot
    have hsome : r.active? p.1 = some p.2 := h.active?_eq_some.2 ⟨hp, hnot⟩
    rw [hnone] at hsome
    exact absurd hsome (by simp)
  · intro hremoved
    cases hactive : r.active? p.1 with
    | none => rfl
    | some listener => exact absurd hremoved (h.active?_eq_some.1 hactive).2

end FieldBridge.Registry
