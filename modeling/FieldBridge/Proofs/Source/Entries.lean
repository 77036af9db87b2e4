/-
  The monitored nodes of a connection and the connections of a manager.

  1. **Entries** — recording the answers to a claim enters the good ones behind what is monitored
     (`record_eq`), as long as no node of them is monitored; erasing targets takes out exactly their
     nodes (`erase_eq`).

  2. **Claims** — a claim is made of free nodes, each once (`nodup_claim`), and releasing it leaves the
     claims of the other calls (`pending_release`).

  3. **Connections** — changing one connection leaves the others, and which of them is current.
-/

import FieldBridge.Source.Manager

namespace FieldBridge

namespace Connection

/-! ## Entries -/

/-- What recording answers enters for a claim. -/
def entries (claim : Claim) (results : List ItemResult) : List (NodeId × Monitored) :=
  (results.filter (·.status.isGood)).map fun r => (r.node, ⟨spelling claim r.node, r.item⟩)

/-- The nodes entered are nodes of the answers. -/
theorem nodes_entries (claim : Claim) (results : List ItemResult) :
    ((entries claim results).map (·.1)).Sublist (results.map (·.node)) := by
  have hnodes : (entries claim results).map (·.1)
      = (results.filter (·.status.isGood)).map (·.node) := by
    simp [entries, Function.comp_def]
  rw [hnodes]
  exact List.filter_sublist.map _

/-- A node that is not monitored is put in last. -/
theorem put_new {c : Connection} {node : NodeId} (m : Monitored)
    (h : node ∉ c.monitored.map (·.1)) :
    c.put node m = { c with monitored := c.monitored ++ [(node, m)] } := by
  have hkeep : c.monitored.filter (fun p => p.1 ≠ node) = c.monitored := by
    rw [List.filter_eq_self]
    intro p hp
    exact decide_eq_true fun heq => h (heq ▸ List.mem_map_of_mem hp)
  rw [put, hkeep]

/-- Recording answers about nodes that are not monitored enters the good ones, in order. -/
theorem record_eq {c : Connection} {claim : Claim} {results : List ItemResult}
    (h : (c.monitored.map (·.1) ++ results.map (·.node)).Nodup) :
    (c.record claim results).2
      = { c with monitored := c.monitored ++ entries claim results } := by
  induction results generalizing c with
  | nil => simp [record, entries]
  | cons r rest ih =>
    rw [List.map_cons] at h
    have hfirst : (r.node :: (c.monitored.map (·.1) ++ rest.map (·.node))).Nodup :=
      List.perm_middle.nodup h
    obtain ⟨hr, hrest⟩ := List.nodup_cons.1 hfirst
    have hnew : r.node ∉ c.monitored.map (·.1) := fun hmem =>
      hr (List.mem_append_left _ hmem)
    rw [record]
    split
    · rename_i hgood
      rw [put_new _ hnew, ih]
      · simp [entries, hgood]
      · rw [List.map_append, List.append_assoc]
        exact h
    · rename_i hbad
      rw [ih hrest]
      simp [entries, hbad]

/-- Erasing takes out the nodes of the targets. -/
theorem erase_eq {c : Connection} {targets : List (NodeId × Monitored)} {statuses : List Status}
    (h : statuses.length = targets.length) : (c.erase targets statuses).2
      = { c with monitored := c.monitored.filter (·.1 ∉ targets.map (·.1)) } := by
  induction targets generalizing c statuses with
  | nil =>
    have hkeep : c.monitored.filter (·.1 ∉ ([] : List NodeId)) = c.monitored :=
      List.filter_eq_self.2 fun p _ => by simp
    simp only [List.map_nil, hkeep]
    cases statuses <;> rfl
  | cons t rest ih =>
    cases statuses with
    | nil => exact absurd h (by simp)
    | cons status statuses =>
      have hsplit := filter_notMem_cons (fun p : NodeId × Monitored => p.1) c.monitored t.1
        (rest.map (·.1))
      show ((c.drop t.1).erase rest statuses).2 = _
      rw [ih (Nat.succ.inj h), List.map_cons, ← hsplit]
      rfl

/-- What is told about the deletion of a target. -/
def deletionNotice (t : NodeId × Monitored) (status : Status) : Option Notice :=
  if status.isGood then none else some (.deletionRejected t.2.text status.text)

/-- Erasing tells about each deletion that failed, and of nothing else. -/
theorem notices_erase (c : Connection) (targets : List (NodeId × Monitored)) (statuses : List Status) :
    (c.erase targets statuses).1
      = (targets.zip statuses).filterMap fun p => deletionNotice p.1 p.2 := by
  induction targets generalizing c statuses with
  | nil => cases statuses <;> rfl
  | cons t rest ih =>
    cases statuses with
    | nil => rfl
    | cons status statuses =>
      rw [erase, List.zip_cons_cons, List.filterMap_cons]
      dsimp only
      rw [ih]
      by_cases hgood : status.isGood
      · simp [deletionNotice, hgood]
      · simp [deletionNotice, hgood]

/-- A target is an entry. -/
theorem mem_of_mem_targets {c : Connection} {texts : List String} {t : NodeId × Monitored}
    (h : t ∈ c.targets texts) : t ∈ c.monitored := by
  obtain ⟨text, -, ht⟩ := List.mem_filterMap.1 h
  cases hnode : NodeId.parse? text with
  | none => simp [hnode] at ht
  | some node =>
    cases hm : c.monitored.lookup node with
    | none => simp [hnode, hm] at ht
    | some m =>
      obtain rfl : (node, m) = t := by simpa [hnode, hm] using ht
      obtain ⟨before, after, hsplit, -⟩ := List.lookup_eq_some_iff.1 hm
      rw [hsplit]
      exact List.mem_append_right _ List.mem_cons_self

/-! ## Claims -/

/-- The requests for a claim are about its nodes, in order. -/
theorem nodes_requests (claim : Claim) (handle : Nat) :
    (requests claim handle).map (·.node) = claim.nodes := by
  induction claim generalizing handle with
  | nil => rfl
  | cons p rest ih => exact congrArg (p.1 :: ·) (ih (handle + 1))

/-- The nodes of a new claim are neither monitored nor pending, and each is there once. -/
theorem nodup_claim (c : Connection) (texts : List String) :
    (c.claim texts).2.1.nodes.Nodup ∧ ∀ node ∈ (c.claim texts).2.1.nodes,
      node ∉ c.monitored.map (·.1) ∧ node ∉ c.pending := by
  refine ⟨c.nodup_screen texts (by simp [Claim.nodes]), fun node hnode => ?_⟩
  rcases free_of_mem_screen hnode with hheld | hfree
  · exact absurd hheld (by simp [Claim.nodes])
  · rw [isTaken, Bool.or_eq_false_iff] at hfree
    obtain ⟨hmonitored, hpending⟩ := hfree
    refine ⟨fun hmem => ?_, fun hmem => ?_⟩
    · obtain ⟨p, hp, rfl⟩ := List.mem_map.1 hmem
      have hnone : c.monitored.lookup p.1 = none := by simpa using hmonitored
      have hne := List.lookup_eq_none_iff.1 hnone p hp
      exact absurd hne (by simp)
    · rw [List.contains_iff_mem.2 hmem] at hpending
      exact absurd hpending (by decide)

/-- Releasing a claim leaves what others have claimed. -/
theorem pending_release {c : Connection} {claim : Claim} {others : List NodeId}
    (hpending : c.pending.Perm (claim.nodes ++ others)) (h : (claim.nodes ++ others).Nodup) :
    (c.release claim).pending.Perm others := by
  obtain ⟨-, -, hdisjoint⟩ := List.nodup_append.1 h
  have hfilter := hpending.filter fun node => !claim.nodes.contains node
  have hown : claim.nodes.filter (fun node => !claim.nodes.contains node) = [] := by
    rw [List.filter_eq_nil_iff]
    intro node hnode
    simp [hnode]
  have hothers : others.filter (fun node => !claim.nodes.contains node) = others := by
    rw [List.filter_eq_self]
    intro node hnode
    have hnot : node ∉ claim.nodes := fun hmem => hdisjoint node hmem node hnode rfl
    simp [hnot]
  rw [List.filter_append, hown, hothers, List.nil_append] at hfilter
  exact hfilter

end Connection

/-! ## Connections -/

namespace Manager

variable {m : Manager} {id : ConnectionId} {c : Connection}

/-- The current connection is a connection. -/
theorem connection?_eq_some : m.connection? = some (id, c)
    ↔ m.current = some id ∧ m.get? id = some c := by
  constructor
  · intro h
    cases hcurrent : m.current with
    | none => simp [connection?, hcurrent] at h
    | some id' =>
      cases hget : m.get? id' with
      | none => simp [connection?, hcurrent, hget] at h
      | some c' =>
        obtain ⟨rfl, rfl⟩ : id' = id ∧ c' = c := by
          simpa [connection?, hcurrent, hget] using h
        exact ⟨rfl, hget⟩
  · rintro ⟨hcurrent, hget⟩
    simp [connection?, hcurrent, hget]

theorem length_install (m : Manager) (endpoint : Endpoint) :
    (m.install endpoint).connections.length = m.connections.length + 1 := by
  simp [install]

/-- Installing a connection leaves the others. -/
theorem get?_install_of_ne (endpoint : Endpoint) (h : id ≠ ⟨m.connections.length⟩) :
    (m.install endpoint).get? id = m.get? id := by
  have hindex : id.index ≠ m.connections.length := fun heq => h (by cases id; exact heq ▸ rfl)
  simp only [get?, install, List.getElem?_append]
  split
  · rfl
  · rename_i hlt
    rw [List.getElem?_eq_none (Nat.not_lt.1 hlt), List.getElem?_eq_none]
    rw [List.length_singleton]
    omega

theorem modify_self (m : Manager) (id : ConnectionId) : m.modify id (fun c => c) = m := by
  have hsame : m.connections.modify id.index (fun c => c) = m.connections :=
    List.modify_id id.index m.connections
  rw [modify, hsame]

/-- A change of one connection leaves the others. -/
theorem get?_modify (m : Manager) (id other : ConnectionId) (f : Connection → Connection) :
    (m.modify id f).get? other = (m.get? other).map fun c => if id = other then f c else c := by
  have hindex : id.index = other.index ↔ id = other := by
    constructor
    · intro h
      cases id
      cases other
      exact congrArg ConnectionId.mk h
    · exact congrArg ConnectionId.index
  simp only [get?, modify, List.getElem?_modify, hindex]
  rfl

/-- The current connection, changed. -/
theorem connection?_modify (f : Connection → Connection) (h : m.connection? = some (id, c)) :
    (m.modify id f).connection? = some (id, f c) := by
  obtain ⟨hcurrent, hget⟩ := connection?_eq_some.1 h
  refine connection?_eq_some.2 ⟨hcurrent, ?_⟩
  simp [get?_modify, hget]

/-- A change of another connection leaves the current one. -/
theorem connection?_modify_of_ne (f : Connection → Connection) (h : m.current ≠ some id) :
    (m.modify id f).connection? = m.connection? := by
  unfold connection?
  show (m.current.bind fun id' => ((m.modify id f).get? id').bind _) = _
  cases hcurrent : m.current with
  | none => rfl
  | some id' =>
    have hne : id ≠ id' := fun heq => h (heq ▸ hcurrent)
    have hget : (m.modify id f).get? id' = m.get? id' := by
      simp [get?_modify, hne]
    simp [hget]

end Manager

end FieldBridge
