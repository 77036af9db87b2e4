/-
  The nodes that texts name.

  A monitor or unmonitor call is given texts, of which some name a node, some name one that others name
  too, and some name none.  All that matters of them is which nodes are named and under which text each is
  named first:

  1. **Names** — texts that follow others name what these leave out (`firstText?_append`).

  2. **Claims** — a call claims exactly the nodes that are named and free, each under its first text
     (`mem_claim_iff`).

  3. **Entries** — a connection shows each node that it monitors under a text (`textOf?`), and the targets
     of an unmonitor call are the entries of the nodes named (`mem_targets_iff`).
-/

import FieldBridge.Proofs.Source.Spelling

namespace FieldBridge

/-! ## Names -/

/-- Some of the texts name a node. -/
def Names (texts : List String) (node : NodeId) : Prop := ∃ text ∈ texts, NodeId.parse? text = some node

instance (texts : List String) (node : NodeId) : Decidable (Names texts node) :=
  inferInstanceAs (Decidable (∃ text ∈ texts, NodeId.parse? text = some node))

variable {texts more : List String} {node : NodeId}

/-- A node is named if it has a first text. -/
theorem names_iff_isSome : Names texts node ↔ (firstText? texts node).isSome := by
  simp [Names, firstText?]

/-- The first text of a node is among those that come first, if these name it. -/
theorem firstText?_append (texts more : List String) (node : NodeId) :
    firstText? (texts ++ more) node = (firstText? texts node).or (firstText? more node) :=
  List.find?_append

@[simp] theorem names_append :
    Names (texts ++ more) node ↔ Names texts node ∨ Names more node := by
  simp [Names, or_and_right, exists_or]

@[simp] theorem not_names_nil : ¬ Names [] node := by simp [Names]

/-! ## Claims -/

namespace Connection

variable {c : Connection}

/-- A node is free if it is neither monitored nor pending. -/
theorem isTaken_eq_false_iff :
    c.isTaken node = false ↔ c.monitored.lookup node = none ∧ node ∉ c.pending := by
  simp [isTaken]

/-- What a call holds it keeps. -/
theorem mem_screen_of_held {held : Claim} {p : NodeId × String} (texts : List String) (h : p ∈ held) :
    p ∈ (c.screen held texts).2 := by
  induction texts generalizing held with
  | nil => exact h
  | cons text rest ih =>
    rw [screen]
    split
    · exact ih h
    · split
      · exact ih h
      · exact ih (List.mem_append_left _ h)

/-- A free node that is not held yet is taken up under the first text that names it. -/
theorem mem_screen_of_free {held : Claim} {text : String} (hfree : c.isTaken node = false)
    (hnew : node ∉ held.nodes) (hfirst : firstText? texts node = some text) :
    (node, text) ∈ (c.screen held texts).2 := by
  induction texts generalizing held with
  | nil => exact absurd hfirst (by simp [firstText?])
  | cons first rest ih =>
    rw [screen]
    by_cases hparse : NodeId.parse? first = some node
    · -- the text at hand names the node
      obtain rfl : first = text :=
        Option.some.inj ((firstText?_cons_of_eq hparse rest).symm.trans hfirst)
      rw [parse?_of_firstText? hfirst]
      simp only [hfree, List.contains_eq_mem, hnew, decide_false, Bool.or_self, Bool.false_eq_true,
        if_false]
      exact mem_screen_of_held rest (List.mem_append_right _ (List.mem_singleton_self _))
    · rw [firstText?_cons_of_ne hparse] at hfirst
      split
      · exact ih hnew hfirst
      · rename_i other hother
        split
        · exact ih hnew hfirst
        · refine ih ?_ hfirst
          have hne : node ≠ other := fun heq =>
            hparse (by simp [NodeId.parse?, hother, heq, Except.toOption])
          rw [Claim.nodes, List.map_append, List.mem_append, not_or]
          exact ⟨hnew, by simpa using hne⟩

/-- **Claims** hold what is named and free, each node under its first text. -/
theorem mem_claim_iff {p : NodeId × String} : p ∈ (c.claim texts).2.1
    ↔ c.isTaken p.1 = false ∧ firstText? texts p.1 = some p.2 := by
  constructor
  · intro h
    refine ⟨?_, c.spells_claim texts p h⟩
    rcases free_of_mem_screen (List.mem_map_of_mem h) with hheld | hfree
    · exact absurd hheld (by simp [Claim.nodes])
    · exact hfree
  · rintro ⟨hfree, hfirst⟩
    exact mem_screen_of_free hfree (by simp [Claim.nodes]) hfirst

/-- The nodes of a claim are those that are named and free. -/
theorem mem_nodes_claim_iff : node ∈ (c.claim texts).2.1.nodes
    ↔ c.isTaken node = false ∧ Names texts node := by
  rw [names_iff_isSome, Option.isSome_iff_exists]
  constructor
  · intro h
    obtain ⟨p, hp, rfl⟩ := List.mem_map.1 h
    obtain ⟨hfree, hfirst⟩ := mem_claim_iff.1 hp
    exact ⟨hfree, p.2, hfirst⟩
  · rintro ⟨hfree, text, hfirst⟩
    exact List.mem_map_of_mem (mem_claim_iff (p := (node, text)).2 ⟨hfree, hfirst⟩)

/-! ## Entries -/

/-- The text under which a node is monitored. -/
def textOf? (c : Connection) (node : NodeId) : Option String := (c.monitored.lookup node).map (·.text)

/-- A node has a text if it is monitored. -/
theorem isSome_textOf? : (c.textOf? node).isSome ↔ node ∈ c.monitored.map (·.1) := by
  rw [textOf?, Option.isSome_map, ← Option.ne_none_iff_isSome, Ne, lookup_eq_none_iff_notMem,
    Classical.not_not]

theorem textOf?_eq_none_iff : c.textOf? node = none ↔ node ∉ c.monitored.map (·.1) := by
  rw [textOf?, Option.map_eq_none_iff, lookup_eq_none_iff_notMem]

/-- The targets are the entries of the nodes that are named. -/
theorem mem_targets_iff {t : NodeId × Monitored} :
    t ∈ c.targets texts ↔ Names texts t.1 ∧ c.monitored.lookup t.1 = some t.2 := by
  rw [targets, List.mem_filterMap]
  constructor
  · rintro ⟨text, htext, ht⟩
    obtain ⟨node, hnode, ht⟩ := Option.bind_eq_some_iff.1 ht
    obtain ⟨m, hm, heq⟩ := Option.bind_eq_some_iff.1 ht
    obtain rfl := Option.some.inj heq
    exact ⟨⟨text, htext, hnode⟩, hm⟩
  · rintro ⟨⟨text, htext, hnode⟩, hm⟩
    exact ⟨text, htext, by simp [hnode, hm]⟩

theorem mem_nodes_targets_iff : node ∈ (c.targets texts).map (·.1)
    ↔ Names texts node ∧ node ∈ c.monitored.map (·.1) := by
  rw [← isSome_textOf?, textOf?, Option.isSome_map, Option.isSome_iff_exists]
  constructor
  · intro h
    obtain ⟨t, ht, rfl⟩ := List.mem_map.1 h
    obtain ⟨hnamed, hm⟩ := mem_targets_iff.1 ht
    exact ⟨hnamed, t.2, hm⟩
  · rintro ⟨hnamed, m, hm⟩
    exact List.mem_map_of_mem (mem_targets_iff (t := (node, m)).2 ⟨hnamed, hm⟩)

/-- The entries that stay when the targets go are those of the nodes that are not named. -/
theorem filter_targets (c : Connection) (texts : List String) :
    c.monitored.filter (·.1 ∉ (c.targets texts).map (·.1))
      = c.monitored.filter fun p => ¬ Names texts p.1 := by
  refine List.filter_congr fun p hp => ?_
  have hmem : p.1 ∈ c.monitored.map (·.1) := List.mem_map_of_mem hp
  simp only [mem_nodes_targets_iff, hmem, and_true]

end Connection

end FieldBridge
