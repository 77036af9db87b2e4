/-
  The items of a server.

  1. **Creating** — requests are answered in order, each with the next number, and the items of the good
     answers are new (`createEach_eq`); nothing else changes.

  2. **Deleting** — exactly the listed items go (`deleteEach_eq`), each answered well where it is listed
     first (`getElem?_deleteEach`), and a subscription goes with all that is on it.

  3. **Links without faults** — these pass everything on as it is.
-/

import FieldBridge.Server.Link

namespace FieldBridge

namespace Server

/-! ## Creating -/

/-- The items that answers stand for. -/
def made (subscription : SubscriptionId) (observer : Observer) (results : List ItemResult) :
    List ServerItem :=
  (results.filter (·.status.isGood)).map fun r => ⟨r.item, subscription, r.node, observer⟩

/-- Creating items numbers the requests and adds the items of the good answers; nothing else changes. -/
theorem createEach_eq (subscription : SubscriptionId) (observer : Observer) (s : Server)
    (requests : List MonitorRequest) :
    (s.createEach subscription observer requests).2 = { s with
      numbered := s.numbered + requests.length
      items := s.items ++ made subscription observer
        (s.createEach subscription observer requests).1 } := by
  induction requests generalizing s with
  | nil => simp [createEach, made]
  | cons r rest ih =>
    simp only [createEach]
    rw [ih]
    by_cases h : r.node ∈ s.rejected
    · have hbad : Status.nodeIdUnknown.isGood = false := by decide
      simp [createItem, h, made, hbad]
      omega
    · have hgood : Status.good.isGood = true := by decide
      simp [createItem, h, made, hgood]
      omega

/-- The answers are about the nodes asked for, in order. -/
theorem nodes_createEach (subscription : SubscriptionId) (observer : Observer) (s : Server)
    (requests : List MonitorRequest) :
    (s.createEach subscription observer requests).1.map (·.node) = requests.map (·.node) := by
  induction requests generalizing s with
  | nil => rfl
  | cons r rest ih =>
    simp only [createEach, List.map_cons, ih, createItem]
    split <;> rfl

/-- The answers are numbered from the next number on. -/
theorem numbers_createEach (subscription : SubscriptionId) (observer : Observer) (s : Server)
    (requests : List MonitorRequest) :
    (s.createEach subscription observer requests).1.map (·.item.number)
      = List.range' (s.numbered + 1) requests.length := by
  induction requests generalizing s with
  | nil => rfl
  | cons r rest ih =>
    simp only [createEach, List.map_cons, ih, List.length_cons, List.range'_succ, createItem]
    split <;> rfl

/-- An answer is good unless the server refuses the node. -/
theorem status_createEach (subscription : SubscriptionId) (observer : Observer) (s : Server)
    (requests : List MonitorRequest) :
    ∀ r ∈ (s.createEach subscription observer requests).1,
      r.status.isGood = decide (r.node ∉ s.rejected) := by
  have hgood : Status.good.isGood = true := by decide
  have hbad : Status.nodeIdUnknown.isGood = false := by decide
  induction requests generalizing s with
  | nil => exact fun r hr => absurd hr List.not_mem_nil
  | cons first rest ih =>
    have hrejected : (s.createItem subscription observer first).2.rejected = s.rejected := by
      simp only [createItem]
      split <;> rfl
    simp only [createEach]
    refine List.forall_mem_cons.2 ⟨?_, fun r hr => ?_⟩
    · by_cases h : first.node ∈ s.rejected
      · simp [createItem, h, hbad]
      · simp [createItem, h, hgood]
    · rw [← hrejected]
      exact ih _ r hr

/-- A later state of a server: items are where they were or have new numbers. -/
structure Later (s s' : Server) : Prop where
  numbered : s.numbered ≤ s'.numbered
  items : ∀ i ∈ s'.items, i ∈ s.items ∨ s.numbered < i.id.number ∧ i.id.number ≤ s'.numbered
  ids : (s'.items.map (·.id)).Nodup

/-- Creating items gives a later state. -/
theorem Later.made {s s' : Server} {subscription : SubscriptionId} {observer : Observer}
    {results : List ItemResult} {count : Nat} (hnumbered : ∀ i ∈ s.items, i.id.number ≤ s.numbered)
    (hids : (s.items.map (·.id)).Nodup)
    (hnumbers : results.map (·.item.number) = List.range' (s.numbered + 1) count)
    (hcount : s'.numbered = s.numbered + count)
    (hitems : s'.items = s.items ++ made subscription observer results) : Later s s' := by
  have hnew : ∀ i ∈ Server.made subscription observer results,
      s.numbered < i.id.number ∧ i.id.number ≤ s.numbered + count := by
    intro i hi
    obtain ⟨r, hr, rfl⟩ := List.mem_map.1 hi
    have hmem : r.item.number ∈ List.range' (s.numbered + 1) count :=
      hnumbers ▸ List.mem_map_of_mem (List.mem_filter.1 hr).1
    have hrange := List.mem_range'_1.1 hmem
    show s.numbered < r.item.number ∧ r.item.number ≤ s.numbered + count
    omega
  have hmade : ((Server.made subscription observer results).map (·.id)).Nodup := by
    have hall : (results.map (·.item.number)).Nodup := hnumbers ▸ List.nodup_range'
    have hsome : ((results.filter (·.status.isGood)).map (·.item.number)).Nodup :=
      hall.sublist (List.filter_sublist.map _)
    rw [Server.made, List.map_map]
    exact List.pairwise_map.2 ((List.pairwise_map.1 hsome).imp fun hne heq =>
      hne (congrArg ItemId.number heq))
  refine ⟨by omega, ?_, ?_⟩
  · intro i hi
    rw [hitems] at hi
    rcases List.mem_append.1 hi with hold | hi
    · exact Or.inl hold
    · exact Or.inr (hcount ▸ hnew i hi)
  · -- numbers only go up
    rw [hitems, List.map_append, List.nodup_append]
    refine ⟨hids, hmade, ?_⟩
    intro a ha b hb hab
    obtain ⟨i, hi, rfl⟩ := List.mem_map.1 ha
    obtain ⟨j, hj, rfl⟩ := List.mem_map.1 hb
    have hold := hnumbered i hi
    have hlate := (hnew j hj).1
    rw [← hab] at hlate
    omega

/-! ## Deleting -/

/-- Deleting one item. -/
theorem deleteItem_eq (s : Server) (id : ItemId) :
    (s.deleteItem id).2 = { s with items := s.items.filter (·.id ≠ id) } := by
  unfold deleteItem
  split
  · rfl
  · rename_i h
    have hkeep : s.items.filter (·.id ≠ id) = s.items := by
      rw [List.filter_eq_self]
      intro i hi
      refine decide_eq_true fun hid => h ?_
      exact List.any_eq_true.2 ⟨i, hi, decide_eq_true hid⟩
    rw [hkeep]

/-- Deleting items takes out exactly those; nothing else changes. -/
theorem deleteEach_eq (s : Server) (ids : List ItemId) :
    (s.deleteEach ids).2 = { s with items := s.items.filter (·.id ∉ ids) } := by
  induction ids generalizing s with
  | nil =>
    have hkeep : s.items.filter (·.id ∉ ([] : List ItemId)) = s.items :=
      List.filter_eq_self.2 fun i _ => by simp
    rw [hkeep]
    rfl
  | cons id rest ih =>
    simp only [deleteEach, ih, deleteItem_eq, filter_notMem_cons (fun i : ServerItem => i.id)]

theorem length_deleteEach (s : Server) (ids : List ItemId) :
    (s.deleteEach ids).1.length = ids.length := by
  induction ids generalizing s with
  | nil => rfl
  | cons id rest ih => simp only [deleteEach, List.length_cons, ih]

/-- An item is deleted if it is live. -/
theorem deleteItem_status (s : Server) (id : ItemId) :
    (s.deleteItem id).1 = if id ∈ s.items.map (·.id) then .good else .itemIdInvalid := by
  have hlive : s.items.any (·.id = id) = true ↔ id ∈ s.items.map (·.id) := by simp
  unfold deleteItem
  by_cases h : id ∈ s.items.map (·.id)
  · rw [if_pos (hlive.2 h), if_pos h]
  · rw [if_neg (mt hlive.1 h), if_neg h]

/-- Of items to be deleted, those are found that are live and not listed before already. -/
theorem getElem?_deleteEach (s : Server) (ids : List ItemId) (place : Nat) :
    (s.deleteEach ids).1[place]? = ids[place]?.map fun id =>
      if id ∈ s.items.map (·.id) ∧ id ∉ ids.take place then .good else .itemIdInvalid := by
  induction ids generalizing s place with
  | nil => rfl
  | cons first rest ih =>
    cases place with
    | zero => simp [deleteEach, deleteItem_status]
    | succ place =>
      have hleft : ∀ id, id ∈ (s.deleteItem first).2.items.map (·.id)
          ↔ id ∈ s.items.map (·.id) ∧ id ≠ first := by
        intro id
        rw [deleteItem_eq]
        constructor
        · intro hid
          obtain ⟨i, hi, rfl⟩ := List.mem_map.1 hid
          obtain ⟨hi, hne⟩ := List.mem_filter.1 hi
          exact ⟨List.mem_map_of_mem hi, of_decide_eq_true hne⟩
        · rintro ⟨hid, hne⟩
          obtain ⟨i, hi, rfl⟩ := List.mem_map.1 hid
          exact List.mem_map_of_mem (List.mem_filter.2 ⟨hi, decide_eq_true hne⟩)
      simp only [deleteEach, List.getElem?_cons_succ, List.take_succ_cons, List.mem_cons, not_or]
      rw [ih]
      simp only [hleft, and_assoc]

end Server

/-! ## Links without faults -/

namespace Link

variable {l : Link}

theorem beginSubscription_faultless (hfaults : l.faults = {}) (hopen : l.server.closed = false) :
    l.beginSubscription = (.ok l.server.subscriptionDelay,
      { l with server := { l.server with subscriptionCalls := l.server.subscriptionCalls + 1 } }) := by
  simp [beginSubscription, Server.beginSubscription, hfaults, hopen]

/-- Without faults an answer is passed on as it is. -/
theorem alterCreated_none (r : ItemResult) : alterCreated {} r = r := rfl

/-- Items are created as the server creates them. -/
theorem createItems_faultless (hfaults : l.faults = {}) (hopen : l.server.closed = false)
    (subscription : SubscriptionId) (requests : List MonitorRequest) (observer : Observer) :
    ∃ results, (l.createItems subscription requests observer).1 = .ok results
      ∧ results.map (·.node) = requests.map (·.node)
      ∧ results.map (·.item.number) = List.range' (l.server.numbered + 1) requests.length
      ∧ (l.createItems subscription requests observer).2.faults = {}
      ∧ (l.createItems subscription requests observer).2.server = { l.server with
        requests
        numbered := l.server.numbered + requests.length
        items := l.server.items ++ Server.made subscription observer results } := by
  let s : Server := { l.server with requests }
  refine ⟨(s.createEach subscription observer requests).1, ?_, s.nodes_createEach _ _ _,
    s.numbers_createEach _ _ _, ?_, ?_⟩
  · simp [createItems, Server.createItems, hfaults, hopen, Except.map, s,
      funext alterCreated_none]
  · simp [createItems, hfaults]
  · have h := s.createEach_eq subscription observer requests
    simpa [createItems, Server.createItems, hfaults, hopen, s] using h

/-- Items are refused for the nodes that the server refuses. -/
theorem status_createItems (hfaults : l.faults = {}) {subscription : SubscriptionId}
    {requests : List MonitorRequest} {observer : Observer} {results : List ItemResult}
    (hanswer : (l.createItems subscription requests observer).1 = .ok results) :
    ∀ r ∈ results, r.status.isGood = decide (r.node ∉ l.server.rejected) := by
  cases hclosed : l.server.closed with
  | true => simp [createItems, Server.createItems, hfaults, hclosed, Except.map] at hanswer
  | false =>
    have hcreated : (({ l.server with requests } : Server).createEach subscription observer
        requests).1 = results := by
      simpa [createItems, Server.createItems, hfaults, hclosed, Except.map,
        funext alterCreated_none] using hanswer
    rw [← hcreated]
    exact Server.status_createEach subscription observer { l.server with requests } requests

/-- Items are deleted as the server deletes them; a closed session deletes none. -/
theorem deleteItems_faultless (hfaults : l.faults = {}) (ids : List ItemId) :
    (l.server.closed = true ∧ l.deleteItems ids = (.error .closed, l))
    ∨ (l.server.closed = false ∧ l.deleteItems ids = (.ok (l.server.deleteEach ids).1,
        { l with server := { l.server with items := l.server.items.filter (·.id ∉ ids) } })) := by
  cases hclosed : l.server.closed with
  | true =>
    refine Or.inl ⟨rfl, ?_⟩
    have hanswer : l.server.deleteItems ids = (.error .closed, l.server) := by
      simp [Server.deleteItems, hclosed]
    rw [deleteItems, hanswer, if_neg (by rw [hfaults]; decide)]
    rfl
  | false =>
    refine Or.inr ⟨rfl, ?_⟩
    simp [deleteItems, Server.deleteItems, hfaults, hclosed, Except.map, Server.deleteEach_eq]

end Link

end FieldBridge
