/-
  Association lists.

  Small tables are lists of pairs, looked up by their first part.  Taking a key out (`filter`) makes its
  look-up fail and leaves every other one as it was; these two facts carry every statement about such a
  table.  Where a table holds each key once, an entry is what is found under its key.
-/

namespace FieldBridge

variable {α β : Type} [DecidableEq α]

/-- A key that was taken out is not found. -/
theorem lookup_without_self (l : List (α × β)) (key : α) :
    (l.filter fun p => p.1 ≠ key).lookup key = none := by
  rw [List.lookup_eq_none_iff]
  intro p hp
  have hne : p.1 ≠ key := by simpa using (List.mem_filter.1 hp).2
  exact bne_iff_ne.2 (Ne.symm hne)

/-- Every other key is found as before. -/
theorem lookup_without_of_ne {key other : α} (l : List (α × β)) (h : other ≠ key) :
    (l.filter fun p => p.1 ≠ key).lookup other = l.lookup other := by
  induction l with
  | nil => rfl
  | cons p l ih =>
    by_cases hp : p.1 = key
    · have hother : (other == p.1) = false := by
        rw [hp]
        exact beq_eq_false_iff_ne.2 h
      rw [List.filter_cons_of_neg (by simpa using hp), List.lookup_cons, hother]
      exact ih
    · rw [List.filter_cons_of_pos (by simpa using hp), List.lookup_cons, List.lookup_cons, ih]

/-- Taking out one key and then others takes out all of them. -/
theorem filter_notMem_cons {γ : Type} (key : γ → α) (l : List γ) (first : α) (others : List α) :
    (l.filter fun x => key x ≠ first).filter (fun x => key x ∉ others)
      = l.filter fun x => key x ∉ first :: others := by
  rw [List.filter_filter]
  refine List.filter_congr fun x _ => ?_
  simp [Bool.and_comm]

/-- In a table that holds each key once, an entry is the only one under its key. -/
theorem filter_key_of_mem {l : List (α × β)} (hnodup : (l.map (·.1)).Nodup) {p : α × β}
    (hp : p ∈ l) : (l.filter fun q => q.1 = p.1) = [p] := by
  induction l with
  | nil => exact absurd hp List.not_mem_nil
  | cons q rest ih =>
    rw [List.map_cons, List.nodup_cons] at hnodup
    obtain ⟨hq, hrest⟩ := hnodup
    rcases List.mem_cons.1 hp with rfl | hp
    · have hnone : (rest.filter fun r => r.1 = p.1) = [] := by
        rw [List.filter_eq_nil_iff]
        intro r hr hrp
        exact hq (of_decide_eq_true hrp ▸ List.mem_map_of_mem hr)
      rw [List.filter_cons_of_pos (by simp), hnone]
    · have hne : q.1 ≠ p.1 := fun heq => hq (heq ▸ List.mem_map_of_mem hp)
      rw [List.filter_cons_of_neg (by simpa using hne), ih hrest hp]

/-- A key is not found where no entry has it. -/
theorem lookup_eq_none_iff_notMem {l : List (α × β)} {key : α} :
    l.lookup key = none ↔ key ∉ l.map (·.1) := by
  rw [List.lookup_eq_none_iff]
  constructor
  · intro h hmem
    obtain ⟨p, hp, rfl⟩ := List.mem_map.1 hmem
    exact bne_iff_ne.1 (h p hp) rfl
  · intro h p hp
    exact bne_iff_ne.2 fun heq => h (heq ▸ List.mem_map_of_mem hp)

/-- In a table that holds each key once, what is found under a key is the entry that has it. -/
theorem lookup_eq_some_iff_mem {l : List (α × β)} (hnodup : (l.map (·.1)).Nodup) {key : α}
    {value : β} : l.lookup key = some value ↔ (key, value) ∈ l := by
  constructor
  · intro h
    obtain ⟨before, after, hsplit, -⟩ := List.lookup_eq_some_iff.1 h
    rw [hsplit]
    exact List.mem_append_right _ List.mem_cons_self
  · intro hmem
    have hone := filter_key_of_mem hnodup hmem
    cases h : l.lookup key with
    | none => exact absurd (List.mem_map_of_mem hmem) (lookup_eq_none_iff_notMem.1 h)
    | some other =>
      obtain ⟨before, after, hsplit, -⟩ := List.lookup_eq_some_iff.1 h
      have hother : (key, other) ∈ l.filter fun q => q.1 = key :=
        List.mem_filter.2 ⟨hsplit ▸ List.mem_append_right _ List.mem_cons_self, by simp⟩
      rw [hone, List.mem_singleton] at hother
      exact congrArg (fun p => some p.2) hother

omit [DecidableEq α] in
/-- Looking up every key of a table gives its values. -/
theorem mapM_keys {find : α → Option β} {l : List (α × β)} (h : ∀ p ∈ l, find p.1 = some p.2) :
    (l.map (·.1)).mapM find = some (l.map (·.2)) := by
  induction l with
  | nil => rfl
  | cons p rest ih =>
    rw [List.map_cons, List.mapM_cons, h p List.mem_cons_self,
      ih fun q hq => h q (List.mem_cons_of_mem p hq)]
    rfl

end FieldBridge
