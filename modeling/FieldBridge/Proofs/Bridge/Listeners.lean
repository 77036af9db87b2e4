/-
  The listeners of a bridge.

  A bridge registers its pipeline and its logger when it starts and keeps their two handles until it has
  shut down.  Others may register recorders at any time, so the two stand anywhere among them; but what the
  registry holds besides recorders is exactly what the bridge keeps the handles of (`Listens`).

  Hence registering (`Listens.register`) never adds one of the two twice, and deregistering
  (`Listens.deregister`) removes the two and nothing else.
-/

import FieldBridge.Bridge.Lifecycle
import FieldBridge.Proofs.Listener.Registry

namespace FieldBridge

namespace Registry

variable {κ : Type} {r : Registry κ} {added : List (ListenerId × κ)} {removed : List ListenerId}

/-- The listeners that were added and not removed, with their handles. -/
def present (added : List (ListenerId × κ)) (removed : List ListenerId) : List (ListenerId × κ) :=
  added.filter fun p => p.1 ∉ removed

/-- A delivery reaches those that are present. -/
theorem Holds.reached (h : r.Holds added removed) : r.reached = (present added removed).map (·.2) := by
  have hcurrent : r.current = (present added removed).map (·.1) := by
    rw [h.current, registered, List.filter_map]
    rfl
  rw [Registry.reached, hcurrent, List.filterMap_map, ← List.filterMap_eq_map]
  refine List.filterMap_congr fun p hp => ?_
  obtain ⟨hadded, hnot⟩ := List.mem_filter.1 hp
  exact h.active?_eq_some.2 ⟨hadded, of_decide_eq_true hnot⟩

/-- Removing a handle leaves the others present. -/
theorem Holds.remove_present (h : r.Holds added removed) (id : ListenerId) :
    ∃ removed', (r.remove id).2.Holds added removed'
      ∧ present added removed' = (present added removed).filter fun p => p.1 ≠ id := by
  obtain ⟨hfound, hremoved⟩ := h.remove id
  refine ⟨_, hremoved, ?_⟩
  rw [hfound, present, present, List.filter_filter]
  refine List.filter_congr fun p hp => ?_
  by_cases hid : id ∈ registered added removed
  · simp [hid, Bool.and_comm]
  · have hgone : p.1 ∉ removed → p.1 ≠ id := by
      rintro hnot rfl
      exact hid (mem_registered.2 ⟨⟨p.2, hp⟩, hnot⟩)
    simp only [hid]
    simpa using hgone

/-- Removing several handles leaves the others present. -/
theorem Holds.removeAll (h : r.Holds added removed) (ids : List ListenerId) :
    ∃ removed', (ids.foldl (fun r id => (r.remove id).2) r).Holds added removed'
      ∧ present added removed' = (present added removed).filter fun p => p.1 ∉ ids := by
  induction ids generalizing r removed with
  | nil => exact ⟨removed, h, by simp⟩
  | cons id rest ih =>
    obtain ⟨removed₁, hfirst, hpresent⟩ := h.remove_present id
    obtain ⟨removed₂, hrest, hothers⟩ := ih hfirst
    refine ⟨removed₂, hrest, ?_⟩
    rw [hothers, hpresent, List.filter_filter]
    refine List.filter_congr fun p _ => ?_
    simp [Bool.and_comm]

/-- A listener added is present, behind the others. -/
theorem Holds.present_add (h : r.Holds added removed) (listener : κ) :
    present (added ++ [(⟨r.nextNumber⟩, listener)]) removed
      = present added removed ++ [(⟨r.nextNumber⟩, listener)] := by
  have hnew : (⟨r.nextNumber⟩ : ListenerId) ∉ removed := fun hmem => h.fresh (h.known _ hmem)
  rw [present, List.filter_append]
  simp [present, hnew]

end Registry

namespace Bridge

open Registry (present)

variable {b b' : Bridge}

/-- What the registry holds besides recorders is what the bridge keeps the handles of: the pipeline and the
logger, or nothing. -/
structure Listens (b : Bridge) : Prop where
  books : ∃ added removed, b.registry.Holds added removed
    ∧ (present added removed).filter (fun p => p.2 ≠ .recorder) = b.registered.zip [.pipeline, .logger]
  both : b.registered = [] ∨ b.registered.length = 2

/-- The listeners besides recorders, in order of registration. -/
def ownListeners (b : Bridge) : List Listener := b.registry.reached.filter (· ≠ .recorder)

theorem Listens.keep (h : b.Listens) (hregistry : b'.registry = b.registry)
    (hregistered : b'.registered = b.registered) : b'.Listens where
  books := by
    rw [hregistry, hregistered]
    exact h.books
  both := by
    rw [hregistered]
    exact h.both

/-- **Each of the two listens once**, or neither does. -/
theorem Listens.ownListeners (h : b.Listens) : b.ownListeners
    = if b.registered = [] then [] else [.pipeline, .logger] := by
  obtain ⟨added, removed, hholds, hown⟩ := h.books
  have hzip : b.ownListeners = (b.registered.zip [Listener.pipeline, .logger]).map (·.2) := by
    rw [Bridge.ownListeners, hholds.reached, List.filter_map, ← hown]
    rfl
  rw [hzip]
  rcases h.both with hnone | htwo
  · rw [if_pos hnone, hnone]
    rfl
  · obtain ⟨first, second, hboth⟩ := List.length_eq_two.1 htwo
    rw [if_neg (by simp [hboth]), hboth]
    rfl

/-- The pipeline listens if the bridge keeps its handle. -/
theorem Listens.pipeline_mem (h : b.Listens) : .pipeline ∈ b.registry.reached ↔ b.registered ≠ [] := by
  have hmem : .pipeline ∈ b.registry.reached ↔ .pipeline ∈ b.ownListeners := by
    simp [Bridge.ownListeners]
  rw [hmem, h.ownListeners]
  split
  · rename_i hnone
    simp [hnone]
  · rename_i hsome
    simp [hsome]

/-- Somebody else begins to listen. -/
theorem Listens.listen (h : b.Listens) : (b.listen .recorder).2.Listens := by
  obtain ⟨added, removed, hholds, hown⟩ := h.books
  refine ⟨⟨_, removed, hholds.add .recorder, ?_⟩, h.both⟩
  rw [hholds.present_add, List.filter_append, hown]
  simp [Bridge.listen]

/-- **Registering** leaves both registered. -/
theorem Listens.register (h : b.Listens) : b.register.Listens ∧ b.register.registered ≠ [] := by
  obtain ⟨added, removed, hholds, hown⟩ := h.books
  by_cases hnone : b.registered = []
  · have hregister : b.register = { b with
        registry := (((b.registry.add .pipeline).2).add .logger).2
        registered := [⟨b.registry.nextNumber⟩, ⟨b.registry.nextNumber + 1⟩] } := by
      simp [Bridge.register, Bridge.listen, hnone, Registry.add]
    have hfirst := hholds.add .pipeline
    rw [hregister]
    refine ⟨⟨⟨_, removed, hfirst.add .logger, ?_⟩, Or.inr rfl⟩, by simp⟩
    rw [hfirst.present_add, hholds.present_add, List.filter_append, List.filter_append, hown, hnone]
    rfl
  · have hregister : b.register = b := by
      have hfull : b.registered.isEmpty = false := by simpa using hnone
      simp [Bridge.register, hfull]
    rw [hregister]
    exact ⟨h, hnone⟩

/-- A listener that is present is one of the two if the bridge keeps its handle. -/
theorem Listens.mem_registered (h : b.Listens) {added : List (ListenerId × Listener)}
    {removed : List ListenerId} (hholds : b.registry.Holds added removed)
    (hown : (present added removed).filter (fun p => p.2 ≠ .recorder)
      = b.registered.zip [.pipeline, .logger])
    {p : ListenerId × Listener} (hp : p ∈ present added removed) :
    p.1 ∈ b.registered ↔ p.2 ≠ .recorder := by
  constructor
  · intro hid
    have hlength : b.registered.length ≤ [Listener.pipeline, .logger].length := by
      rcases h.both with hnone | htwo
      · simp [hnone]
      · simp [htwo]
    -- the handle is that of one of the two, and no other listener has the same
    have hfst : p.1 ∈ (b.registered.zip [Listener.pipeline, .logger]).map (·.1) := by
      rw [List.map_fst_zip hlength]
      exact hid
    obtain ⟨q, hq, hqp⟩ := List.mem_map.1 hfst
    rw [← hown] at hq
    obtain ⟨hqpresent, hqown⟩ := List.mem_filter.1 hq
    have heq : q = p := List.inj_on_of_nodup_map hholds.nodup (List.mem_of_mem_filter hqpresent)
      (List.mem_of_mem_filter hp) hqp
    rw [← heq]
    exact of_decide_eq_true hqown
  · intro hne
    have hmem : p ∈ b.registered.zip [Listener.pipeline, .logger] := by
      rw [← hown]
      exact List.mem_filter.2 ⟨hp, decide_eq_true hne⟩
    exact (List.of_mem_zip hmem).1

/-- Remove a listener. -/
def unlisten (b : Bridge) (id : ListenerId) : Bridge :=
  { b with registry := (b.registry.remove id).2 }

/-- Somebody else ceases to listen. -/
theorem Listens.unlisten (h : b.Listens) {id : ListenerId} (hother : id ∉ b.registered) :
    (b.unlisten id).Listens := by
  obtain ⟨added, removed, hholds, hown⟩ := h.books
  obtain ⟨removed', hholds', hpresent⟩ := hholds.remove_present id
  refine ⟨⟨added, removed', hholds', Eq.trans ?_ hown⟩, h.both⟩
  rw [hpresent, List.filter_filter]
  refine List.filter_congr fun p hp => ?_
  by_cases hrecorder : p.2 = .recorder
  · simp [hrecorder]
  · -- one of the two has another handle
    have hid : p.1 ≠ id := by
      rintro rfl
      exact hother ((h.mem_registered hholds hown hp).2 hrecorder)
    simp [hid]

/-- **Deregistering** removes the two, and nobody else. -/
theorem Listens.deregister (h : b.Listens) : b.deregister.Listens
    ∧ b.deregister.registry.reached = b.registry.reached.filter (· = .recorder) := by
  obtain ⟨added, removed, hholds, hown⟩ := h.books
  obtain ⟨removed', hholds', hpresent⟩ := hholds.removeAll b.registered
  have hrest : present added removed'
      = (present added removed).filter fun p => p.2 = .recorder := by
    rw [hpresent]
    refine List.filter_congr fun p hp => ?_
    rw [decide_eq_decide, h.mem_registered hholds hown hp, not_not]
  refine ⟨⟨⟨added, removed', hholds', ?_⟩, Or.inl rfl⟩, ?_⟩
  · rw [hrest, List.filter_filter]
    refine List.filter_eq_nil_iff.2 fun p _ => ?_
    simp
  · show (b.registered.foldl (fun r id => (r.remove id).2) b.registry).reached = _
    rw [hholds'.reached, hholds.reached, hrest, List.filter_map]
    rfl

end Bridge

end FieldBridge
