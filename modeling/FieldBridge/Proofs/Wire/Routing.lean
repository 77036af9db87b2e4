/-
  Routes and items in step.

  Routes go by node, items by subscription and number.  Routes are put in before the server answers, and
  taken out again as a whole or node by node; items are put in by the answer, and taken out with their
  routes.

  1. **Changes** — one call makes some items and ends others.  Said by what was there before, the items are
     those made and those not ended, and the routes follow (`Changes`).  Where the nodes with a route were
     the nodes of the items, they still are (`Changes.routed`).

  2. **Deletions** and **creations** — each is such a change (`Paired.changes_delete`,
     `Paired.changes_create`).

  3. **Calls** — the same for any call whatever its answer is (`Paired.changes_step`), as long as no node
     is asked for twice and the server gives no number to two items at a time (`Admits`).

  4. **Runs** (`consistent_run`) — after any calls the table holds just the items that were made and not
     ended since, each with the receiver of the call that made it.
-/

import Mathlib.Data.List.Induction
import Mathlib.Data.List.Nodup
import FieldBridge.Wire.Routes

namespace FieldBridge

namespace RoutingTable

variable {κ : Type} {t t' t'' : RoutingTable κ}

/-! ## Changes -/

/-- The nodes with a route are the nodes of the items, and each is the node of one item. -/
structure Paired (t : RoutingTable κ) : Prop where
  keys : (t.items.map (·.1)).Nodup
  nodes : (t.items.map (·.2)).Nodup
  routed : ∀ node, (t.receiver? node).isSome ↔ node ∈ t.items.map (·.2)

/-- Some items are made, with a receiver each, and others are gone; the routes of both follow, and
everything else is as before. -/
structure Changes (made : ItemKey → NodeId → κ → Prop) (gone : ItemKey → Prop)
    (t t' : RoutingTable κ) : Prop where
  entries : ∀ key node, (key, node) ∈ t'.items
    ↔ (∃ receiver, made key node receiver) ∨ (key, node) ∈ t.items ∧ ¬ gone key
  routes : ∀ node receiver, t'.receiver? node = some receiver
    ↔ (∃ key, made key node receiver)
      ∨ t.receiver? node = some receiver ∧ ∀ key, (key, node) ∈ t.items → ¬ gone key

theorem paired_empty : ({} : RoutingTable κ).Paired where
  keys := List.nodup_nil
  nodes := List.nodup_nil
  routed := fun _ => by simp [receiver?]

/-- A node is the node of one item. -/
theorem Paired.key_unique (h : t.Paired) {key key' : ItemKey} {node : NodeId}
    (hkey : (key, node) ∈ t.items) (hkey' : (key', node) ∈ t.items) : key = key' :=
  congrArg (·.1) (List.inj_on_of_nodup_map h.nodes hkey hkey' rfl)

theorem Paired.receiver?_eq_none (h : t.Paired) {node : NodeId} (hnode : node ∉ t.items.map (·.2)) :
    t.receiver? node = none := by
  rw [← Option.not_isSome_iff_eq_none]
  exact fun hsome => hnode ((h.routed node).1 hsome)

section Changes

variable {made : ItemKey → NodeId → κ → Prop} {gone gone' : ItemKey → Prop}

/-- **Changes** keep routes and items in step. -/
theorem Changes.routed (hc : Changes made gone t t') (h : t.Paired) (node : NodeId) :
    (t'.receiver? node).isSome ↔ node ∈ t'.items.map (·.2) := by
  rw [Option.isSome_iff_exists, List.mem_map]
  constructor
  · rintro ⟨receiver, hreceiver⟩
    rcases (hc.routes node receiver).1 hreceiver with ⟨key, hmade⟩ | ⟨hbefore, hkept⟩
    · exact ⟨(key, node), (hc.entries key node).2 (.inl ⟨receiver, hmade⟩), rfl⟩
    · have hmem : node ∈ t.items.map (·.2) := (h.routed node).1 (Option.isSome_iff_exists.2 ⟨_, hbefore⟩)
      obtain ⟨⟨key, _⟩, hentry, rfl⟩ := List.mem_map.1 hmem
      exact ⟨(key, _), (hc.entries key _).2 (.inr ⟨hentry, hkept key hentry⟩), rfl⟩
  · rintro ⟨⟨key, _⟩, hentry, rfl⟩
    rcases (hc.entries key _).1 hentry with ⟨receiver, hmade⟩ | ⟨hbefore, hkept⟩
    · exact ⟨receiver, (hc.routes _ receiver).2 (.inl ⟨key, hmade⟩)⟩
    · obtain ⟨receiver, hreceiver⟩ :=
        Option.isSome_iff_exists.1 ((h.routed _).2 (List.mem_map_of_mem hbefore))
      refine ⟨receiver, (hc.routes _ receiver).2 (.inr ⟨hreceiver, fun key' hkey' => ?_⟩)⟩
      rw [h.key_unique hkey' hbefore]
      exact hkept

/-- A node that is made no item and loses none keeps its items and its route. -/
theorem Changes.unchanged (hc : Changes made gone t t') {node : NodeId}
    (hmade : ∀ key receiver, ¬ made key node receiver) (hgone : ∀ key, (key, node) ∈ t.items → ¬ gone key) :
    t'.receiver? node = t.receiver? node ∧ ∀ key, (key, node) ∈ t'.items ↔ (key, node) ∈ t.items := by
  constructor
  · refine Option.ext fun receiver => ?_
    rw [hc.routes]
    constructor
    · rintro (⟨key, hkey⟩ | ⟨hbefore, -⟩)
      · exact absurd hkey (hmade key receiver)
      · exact hbefore
    · exact fun hbefore => .inr ⟨hbefore, hgone⟩
  · intro key
    rw [hc.entries]
    constructor
    · rintro (⟨receiver, hkey⟩ | ⟨hbefore, -⟩)
      · exact absurd hkey (hmade key receiver)
      · exact hbefore
    · exact fun hbefore => .inr ⟨hbefore, hgone key hbefore⟩

/-! ## Deletions -/

/-- Nothing is made. -/
def nothing : ItemKey → NodeId → κ → Prop := fun _ _ _ => False

theorem changes_same (hitems : t'.items = t.items) (hroutes : ∀ node, t'.receiver? node = t.receiver? node)
    (hgone : ∀ key, ¬ gone key) : Changes nothing gone t t' where
  entries := fun key node => by simp [nothing, hgone, hitems]
  routes := fun node receiver => by simp [nothing, hgone, hroutes]

/-- Which items are gone matters only for those that were there. -/
theorem Changes.congr (hc : Changes made gone t t')
    (hgone : ∀ key, key ∈ t.items.map (·.1) → (gone key ↔ gone' key)) : Changes made gone' t t' where
  entries := fun key node => by
    rw [hc.entries]
    refine or_congr_right (and_congr_right fun hentry => not_congr ?_)
    exact hgone key (List.mem_map_of_mem hentry)
  routes := fun node receiver => by
    rw [hc.routes]
    refine or_congr_right (and_congr_right fun _ => ?_)
    exact forall_congr' fun key => imp_congr_right fun hentry =>
      not_congr (hgone key (List.mem_map_of_mem hentry))

/-- Deletions one after the other. -/
theorem Changes.trans (hc : Changes nothing gone t t') (hc' : Changes nothing gone' t' t'') :
    Changes nothing (fun key => gone key ∨ gone' key) t t'' where
  entries := fun key node => by
    rw [hc'.entries, hc.entries]
    simp [nothing, and_assoc]
  routes := fun node receiver => by
    rw [hc'.routes, hc.routes]
    simp only [nothing, exists_false, false_or, hc.entries, not_or, and_assoc]
    refine and_congr_right fun _ => ?_
    constructor
    · rintro ⟨hgone, hgone'⟩ key hentry
      exact ⟨hgone key hentry, hgone' key ⟨hentry, hgone key hentry⟩⟩
    · intro hboth
      exact ⟨fun key hentry => (hboth key hentry).1, fun key hentry => (hboth key hentry.1).2⟩

end Changes

theorem changes_forget (hkeys : (t.items.map (·.1)).Nodup) (key : ItemKey) :
    Changes nothing (· = key) t (t.forget key) := by
  unfold forget
  cases hlookup : t.items.lookup key with
  | none =>
    have hsame : Changes nothing (fun _ => False) t t := changes_same rfl (fun _ => rfl) fun _ => id
    refine hsame.congr fun other hother => ?_
    rw [false_iff]
    rintro rfl
    exact lookup_eq_none_iff_notMem.1 hlookup hother
  | some gone =>
    have hentry : (key, gone) ∈ t.items := (lookup_eq_some_iff_mem hkeys).1 hlookup
    constructor
    · intro other node
      show _ ∈ t.items.filter _ ↔ _
      rw [List.mem_filter, decide_eq_true_iff]
      simp [nothing]
    · intro node receiver
      show (t.unroute gone).receiver? node = _ ↔ _
      rw [receiver?_unroute]
      simp only [nothing, exists_false, false_or]
      split
      · rename_i hnode
        subst hnode
        simp only [reduceCtorEq, false_iff, not_and]
        exact fun _ hkept => hkept key hentry rfl
      · rename_i hnode
        -- an item of another node has another key, as every key stands for one item
        rw [iff_self_and]
        rintro - other hother rfl
        rw [(lookup_eq_some_iff_mem hkeys).2 hother] at hlookup
        exact hnode (Option.some.inj hlookup)

/-- Nothing is put in by a deletion. -/
theorem sublist_forget (t : RoutingTable κ) (key : ItemKey) :
    (t.forget key).items.Sublist t.items := by
  unfold forget
  split
  · exact List.Sublist.refl _
  · exact List.filter_sublist

theorem sublist_delete (t : RoutingTable κ) (subscription : SubscriptionId) (items : List ItemId) :
    (t.delete subscription items).items.Sublist t.items := by
  induction items generalizing t with
  | nil => exact List.Sublist.refl _
  | cons item items ih => exact (ih _).trans (sublist_forget t _)

theorem changes_delete (hkeys : (t.items.map (·.1)).Nodup) (subscription : SubscriptionId)
    (items : List ItemId) :
    Changes nothing (fun key => key.subscription = subscription ∧ key.item ∈ items) t
      (t.delete subscription items) := by
  induction items generalizing t with
  | nil => exact changes_same rfl (fun _ => rfl) fun key => by simp
  | cons item items ih =>
    have hrest : ((t.forget ⟨subscription, item⟩).items.map (·.1)).Nodup :=
      hkeys.sublist ((sublist_forget t _).map _)
    refine ((changes_forget hkeys _).trans (ih hrest)).congr fun key _ => ?_
    obtain ⟨subscription', item'⟩ := key
    simp only [ItemKey.mk.injEq, List.mem_cons, ← and_or_left]

theorem Paired.changes_delete (h : t.Paired) (subscription : SubscriptionId) (items : List ItemId) :
    Changes nothing (fun key => key.subscription = subscription ∧ key.item ∈ items) t
      (t.delete subscription items) ∧ (t.delete subscription items).Paired := by
  have hchanges := RoutingTable.changes_delete h.keys subscription items
  have hsublist := sublist_delete t subscription items
  exact ⟨hchanges, h.keys.sublist (hsublist.map _), h.nodes.sublist (hsublist.map _),
    hchanges.routed h⟩

/-- A subscription goes with all its items. -/
theorem Paired.changes_deleteSubscription (h : t.Paired) (subscription : SubscriptionId) :
    Changes nothing (fun key => key.subscription = subscription) t (t.deleteSubscription subscription)
      ∧ (t.deleteSubscription subscription).Paired := by
  unfold deleteSubscription
  obtain ⟨hchanges, hpaired⟩ := h.changes_delete subscription
    ((t.items.filter fun p => p.1.subscription = subscription).map fun p => p.1.item)
  refine ⟨hchanges.congr fun key hkey => ?_, hpaired⟩
  rw [and_iff_left_iff_imp]
  intro hsubscription
  obtain ⟨p, hp, rfl⟩ := List.mem_map.1 hkey
  exact List.mem_map.2 ⟨p, List.mem_filter.2 ⟨hp, decide_eq_true hsubscription⟩, rfl⟩

theorem Paired.changes_empty (h : t.Paired) : Changes nothing (fun _ => True) t {} where
  entries := fun key node => by simp [nothing]
  routes := fun node receiver => by
    simp only [receiver?, nothing, exists_false, false_or, not_true_eq_false, imp_false]
    show none = _ ↔ _
    simp only [reduceCtorEq, false_iff, not_and, not_forall, not_not]
    intro hreceiver
    have hmem := (h.routed node).1 (Option.isSome_iff_exists.2 ⟨_, hreceiver⟩)
    obtain ⟨⟨key, _⟩, hentry, rfl⟩ := List.mem_map.1 hmem
    exact ⟨key, hentry⟩

/-! ## Creations -/

/-- The answers to a request, each with the node that was asked for at its place. -/
def results (nodes : List NodeId) (answers : List (ItemId × Status)) : List ItemResult :=
  (nodes.zip answers).map fun p => ⟨p.1, p.2.1, p.2.2⟩

/-- At some place the node is asked for and the answer is a good item. -/
def Answered (nodes : List NodeId) (answers : List (ItemId × Status)) (node : NodeId) (item : ItemId) :
    Prop :=
  ∃ (place : Nat) (status : Status),
    nodes[place]? = some node ∧ answers[place]? = some (item, status) ∧ status.isGood = true

/-- The good items of some answers. -/
def goodItems (answers : List (ItemId × Status)) : List ItemId :=
  (answers.filter fun a => a.2.isGood).map (·.1)

/-- The entries for the good ones of some results. -/
def entriesFor (subscription : SubscriptionId) (rs : List ItemResult) : List (ItemKey × NodeId) :=
  (rs.filter fun r => r.status.isGood).map fun r => (⟨subscription, r.item⟩, r.node)

section Creations

variable {nodes : List NodeId} {answers : List (ItemId × Status)} {subscription : SubscriptionId}
  {node : NodeId} {item : ItemId} {status : Status}

theorem mem_results_iff : (⟨node, item, status⟩ : ItemResult) ∈ results nodes answers
    ↔ ∃ place : Nat, nodes[place]? = some node ∧ answers[place]? = some (item, status) := by
  rw [results, List.mem_map]
  constructor
  · rintro ⟨p, hp, heq⟩
    obtain ⟨place, hplace⟩ := List.mem_iff_getElem?.1 hp
    obtain ⟨hnode, hanswer⟩ := List.getElem?_zip_eq_some.1 hplace
    cases heq
    exact ⟨place, hnode, hanswer⟩
  · rintro ⟨place, hnode, hanswer⟩
    have hplace := List.getElem?_zip_eq_some (z := (node, item, status)) |>.2 ⟨hnode, hanswer⟩
    exact ⟨_, List.mem_of_getElem? hplace, rfl⟩

theorem answered_iff : Answered nodes answers node item
    ↔ ∃ status : Status, status.isGood = true ∧ ⟨node, item, status⟩ ∈ results nodes answers := by
  simp only [mem_results_iff]
  constructor
  · rintro ⟨place, status, hnode, hanswer, hgood⟩
    exact ⟨status, hgood, place, hnode, hanswer⟩
  · rintro ⟨status, hgood, place, hnode, hanswer⟩
    exact ⟨place, status, hnode, hanswer, hgood⟩

theorem Answered.mem (h : Answered nodes answers node item) : node ∈ nodes := by
  obtain ⟨place, status, hnode, -⟩ := h
  exact List.mem_of_getElem? hnode

/-- Where every node is answered, the results are about the nodes in their order. -/
theorem map_node_results (hlength : answers.length = nodes.length) :
    (results nodes answers).map (·.node) = nodes := by
  rw [results, List.map_map]
  exact List.map_fst_zip (Nat.le_of_eq hlength.symm)

/-- Of nodes that are asked for once, those refused are those without a good item. -/
theorem refused_iff (hnodes : nodes.Nodup) (hlength : answers.length = nodes.length)
    (hnode : node ∈ nodes) : (∃ r ∈ results nodes answers, r.node = node ∧ ¬ r.status.isGood = true)
      ↔ ∀ item, ¬ Answered nodes answers node item := by
  rw [← map_node_results hlength] at hnodes hnode
  simp only [answered_iff, not_exists, not_and]
  constructor
  · rintro ⟨r, hr, rfl, hbad⟩ item status hgood hother
    have hsame : (⟨r.node, item, status⟩ : ItemResult) = r :=
      List.inj_on_of_nodup_map hnodes hother hr rfl
    exact hbad (congrArg (·.status) hsame ▸ hgood)
  · intro hnone
    obtain ⟨r, hr, rfl⟩ := List.mem_map.1 hnode
    exact ⟨r, hr, rfl, fun hgood => hnone r.item r.status hgood hr⟩

theorem mem_entriesFor_iff {key : ItemKey} : (key, node) ∈ entriesFor subscription (results nodes answers)
    ↔ key.subscription = subscription ∧ Answered nodes answers node key.item := by
  rw [entriesFor, List.mem_map, answered_iff]
  constructor
  · rintro ⟨r, hr, heq⟩
    obtain ⟨rfl, rfl⟩ := Prod.mk.inj heq
    obtain ⟨hmem, hgood⟩ := List.mem_filter.1 hr
    exact ⟨rfl, r.status, hgood, hmem⟩
  · rintro ⟨rfl, status, hgood, hmem⟩
    exact ⟨_, List.mem_filter.2 ⟨hmem, hgood⟩, rfl⟩

/-- Where every node is answered, the keys of the entries are those of the good items. -/
theorem keys_entriesFor (hlength : answers.length = nodes.length) :
    (entriesFor subscription (results nodes answers)).map (·.1)
      = (goodItems answers).map fun item => ⟨subscription, item⟩ := by
  have hanswers : (nodes.zip answers).map (·.2) = answers := List.map_snd_zip (Nat.le_of_eq hlength)
  have hgood : goodItems answers = goodItems ((nodes.zip answers).map (·.2)) := by rw [hanswers]
  rw [hgood, entriesFor, results, goodItems, List.filter_map, List.filter_map]
  simp only [List.map_map]
  rfl

/-- The nodes of the entries are among the nodes asked for, in their order. -/
theorem nodes_entriesFor (hlength : answers.length = nodes.length) :
    ((entriesFor subscription (results nodes answers)).map (·.2)).Sublist nodes := by
  rw [entriesFor, List.map_map]
  have hsublist := (List.filter_sublist (l := results nodes answers)
    (p := fun r => r.status.isGood)).map (·.node)
  rwa [map_node_results hlength] at hsublist

@[simp] theorem items_route (receiver : κ) (t : RoutingTable κ) (node : NodeId) :
    (route receiver t node).items = t.items := rfl

@[simp] theorem items_unroute (t : RoutingTable κ) (node : NodeId) : (t.unroute node).items = t.items := rfl

/-- Doing something to the route of each node in turn does it to the routes of all of them. -/
theorem receiver?_foldl {op : RoutingTable κ → NodeId → RoutingTable κ} {receiver : Option κ}
    (hop : ∀ t node other,
      (op t node).receiver? other = if other = node then receiver else t.receiver? other)
    (t : RoutingTable κ) (nodes : List NodeId) (node : NodeId) :
    (nodes.foldl op t).receiver? node = if node ∈ nodes then receiver else t.receiver? node := by
  induction nodes generalizing t with
  | nil => simp
  | cons first nodes ih =>
    rw [List.foldl_cons, ih, hop]
    by_cases hnode : node ∈ nodes
    · simp [hnode]
    · by_cases hfirst : node = first
      · simp [hfirst]
      · simp [hnode, hfirst]

/-- Routes are none of the items' business. -/
theorem items_foldl {op : RoutingTable κ → NodeId → RoutingTable κ}
    (hop : ∀ t node, (op t node).items = t.items) (t : RoutingTable κ) (nodes : List NodeId) :
    (nodes.foldl op t).items = t.items := by
  induction nodes generalizing t with
  | nil => rfl
  | cons node nodes ih => exact (ih _).trans (hop t node)

theorem items_foldl_route (receiver : κ) (t : RoutingTable κ) (nodes : List NodeId) :
    (nodes.foldl (route receiver) t).items = t.items :=
  items_foldl (items_route receiver) t nodes

/-- An item with a new key is put in front. -/
theorem items_enter_new {key : ItemKey} (hnew : key ∉ t.items.map (·.1)) (node : NodeId) :
    (t.enter key node).items = (key, node) :: t.items := by
  show _ :: t.items.filter _ = _
  rw [List.filter_eq_self.2]
  exact fun p hp => decide_eq_true fun heq => hnew (heq ▸ List.mem_map_of_mem hp)

/-- Good items are put in front, as long as their keys are new. -/
theorem items_foldl_settle (t : RoutingTable κ) (rs : List ItemResult)
    (hnodup : ((entriesFor subscription rs).map (·.1)).Nodup)
    (hnew : ∀ key ∈ (entriesFor subscription rs).map (·.1), key ∉ t.items.map (·.1)) :
    (rs.foldl (settle subscription) t).items = (entriesFor subscription rs).reverse ++ t.items := by
  induction rs generalizing t with
  | nil => rfl
  | cons r rs ih =>
    rw [List.foldl_cons]
    by_cases hgood : r.status.isGood = true
    · have hentries : entriesFor subscription (r :: rs)
          = (⟨subscription, r.item⟩, r.node) :: entriesFor subscription rs := by
        rw [entriesFor, List.filter_cons_of_pos (by exact hgood)]
        rfl
      rw [hentries] at hnodup hnew ⊢
      rw [List.map_cons, List.nodup_cons] at hnodup
      have hitems : (settle subscription t r).items = (⟨subscription, r.item⟩, r.node) :: t.items := by
        rw [settle, if_pos hgood]
        exact items_enter_new (hnew _ List.mem_cons_self) r.node
      rw [ih _ hnodup.2, hitems, List.reverse_cons, List.append_assoc]
      · rfl
      · -- the key just entered is none of those still to come
        intro key hkey
        rw [hitems, List.map_cons, List.mem_cons, not_or]
        exact ⟨fun heq => hnodup.1 (heq ▸ hkey), hnew key (List.mem_cons_of_mem _ hkey)⟩
    · have hentries : entriesFor subscription (r :: rs) = entriesFor subscription rs := by
        rw [entriesFor, List.filter_cons_of_neg (by exact hgood)]
        rfl
      rw [hentries] at hnodup hnew ⊢
      rw [settle, if_neg hgood]
      exact ih _ hnodup hnew

/-- The routes of the nodes that are refused are taken out. -/
theorem receiver?_foldl_settle (t : RoutingTable κ) (rs : List ItemResult) (node : NodeId) :
    (rs.foldl (settle subscription) t).receiver? node
      = if ∃ r ∈ rs, r.node = node ∧ ¬ r.status.isGood = true then none else t.receiver? node := by
  induction rs generalizing t with
  | nil => simp
  | cons r rs ih =>
    rw [List.foldl_cons, ih, settle]
    by_cases hgood : r.status.isGood = true
    · rw [if_pos hgood]
      show (if _ then none else t.receiver? node) = _
      simp [hgood]
    · -- the node of a bad result may be refused once more further on
      rw [if_neg hgood, receiver?_unroute]
      by_cases hrest : ∃ r ∈ rs, r.node = node ∧ ¬ r.status.isGood = true
      · obtain ⟨other, hother, hbad⟩ := hrest
        rw [if_pos ⟨other, hother, hbad⟩, if_pos ⟨other, List.mem_cons_of_mem r hother, hbad⟩]
      · rw [if_neg hrest]
        by_cases hnode : node = r.node
        · rw [if_pos hnode, if_pos ⟨r, List.mem_cons_self, hnode.symm, hgood⟩]
        · rw [if_neg hnode, if_neg]
          rintro ⟨other, hother, heq, hbad⟩
          rcases List.mem_cons.1 hother with rfl | hother
          · exact hnode heq.symm
          · exact hrest ⟨other, hother, heq, hbad⟩

/-- An answered creation routes the nodes that got a good item, and no other node that it asked for. -/
theorem receiver?_create_eq_some_iff (hnodes : nodes.Nodup) (hlength : answers.length = nodes.length)
    {receiver receiver' : κ} :
    (t.create subscription nodes receiver (.ok (results nodes answers))).receiver? node = some receiver'
      ↔ (receiver' = receiver ∧ ∃ item, Answered nodes answers node item)
        ∨ node ∉ nodes ∧ t.receiver? node = some receiver' := by
  rw [create, receiver?_foldl_settle, receiver?_foldl (receiver?_route receiver)]
  by_cases hnode : node ∈ nodes
  · have hrefused := refused_iff hnodes hlength hnode
    by_cases hanswered : ∃ item, Answered nodes answers node item
    · obtain ⟨item, hitem⟩ := hanswered
      rw [if_neg fun hbad => hrefused.1 hbad item hitem, if_pos hnode, Option.some.injEq]
      constructor
      · exact fun heq => .inl ⟨heq.symm, item, hitem⟩
      · rintro (⟨heq, -⟩ | ⟨hnot, -⟩)
        · exact heq.symm
        · exact absurd hnode hnot
    · rw [if_pos (hrefused.2 (not_exists.1 hanswered))]
      simp [hnode, hanswered]
  · rw [if_neg, if_neg hnode]
    · have hnone : ¬ ∃ item, Answered nodes answers node item := fun ⟨_, hitem⟩ => hnode hitem.mem
      simp [hnode, hnone]
    · rintro ⟨r, hr, rfl, -⟩
      exact hnode (map_node_results hlength ▸ List.mem_map_of_mem hr)

end Creations

/-! ## Calls -/

/-- A call of a session that has been completed: what it asked for, and the answer. -/
inductive Call (κ : Type) where
  | create (subscription : SubscriptionId) (nodes : List NodeId) (receiver : κ)
      (answer : Except TransportError (List (ItemId × Status)))
  | delete (subscription : SubscriptionId) (items : List ItemId)
      (answer : Except TransportError (List Status))
  | deleteSubscription (subscription : SubscriptionId) (answer : Except TransportError Unit)
  | close (answer : Except TransportError Unit)

/-- The call makes an item for the node, with the receiver. -/
def Call.Makes : Call κ → ItemKey → NodeId → κ → Prop
  | .create subscription nodes receiver (.ok answers), key, node, receiver' =>
    key.subscription = subscription ∧ receiver' = receiver ∧ Answered nodes answers node key.item
  | _, _, _, _ => False

/-- The call ends the item.  What is asked to be deleted ends also if the server refuses to delete it. -/
def Call.Ends : Call κ → ItemKey → Prop
  | .delete subscription items (.ok _), key => key.subscription = subscription ∧ key.item ∈ items
  | .deleteSubscription subscription (.ok _), key => key.subscription = subscription
  | .close (.ok _), _ => True
  | _, _ => False

/-- What a call does to the table. -/
def step (t : RoutingTable κ) : Call κ → RoutingTable κ
  | .create subscription nodes receiver answer =>
    t.create subscription nodes receiver (answer.map (results nodes))
  | .delete subscription items (.ok _) => t.delete subscription items
  | .deleteSubscription subscription (.ok _) => t.deleteSubscription subscription
  | .close (.ok _) => {}
  | .delete _ _ (.error _) | .deleteSubscription _ (.error _) | .close (.error _) => t

/-- The server answers as often as it was asked, and the good items are new on the subscription. -/
def AnswersFor (t : RoutingTable κ) (subscription : SubscriptionId) (nodes : List NodeId) :
    Except TransportError (List (ItemId × Status)) → Prop
  | .ok answers => answers.length = nodes.length ∧ (goodItems answers).Nodup
    ∧ ∀ item ∈ goodItems answers, (⟨subscription, item⟩ : ItemKey) ∉ t.items.map (·.1)
  | .error _ => True

/-- Items are asked for once for every node, and only where the node has none. -/
def Admits (t : RoutingTable κ) : Call κ → Prop
  | .create subscription nodes _ answer => nodes.Nodup ∧ (∀ node ∈ nodes, node ∉ t.items.map (·.2))
    ∧ t.AnswersFor subscription nodes answer
  | .delete .. | .deleteSubscription .. | .close .. => True

instance (t : RoutingTable κ) (subscription : SubscriptionId) (nodes : List NodeId) :
    (answer : Except TransportError (List (ItemId × Status))) →
      Decidable (t.AnswersFor subscription nodes answer)
  | .ok _ => inferInstanceAs (Decidable (_ ∧ _ ∧ _))
  | .error _ => inferInstanceAs (Decidable True)

instance (t : RoutingTable κ) : (call : Call κ) → Decidable (t.Admits call)
  | .create .. => inferInstanceAs (Decidable (_ ∧ _ ∧ _))
  | .delete .. | .deleteSubscription .. | .close .. => inferInstanceAs (Decidable True)

section Calls

variable {subscription : SubscriptionId} {nodes : List NodeId} {receiver : κ}

/-- A failed creation takes out the routes that it put in. -/
theorem Paired.changes_create_error (h : t.Paired) {e : TransportError}
    (hadmits : t.Admits (.create subscription nodes receiver (.error e))) :
    Changes nothing (fun _ => False) t (t.create subscription nodes receiver (.error e))
      ∧ (t.create subscription nodes receiver (.error e)).Paired := by
  obtain ⟨-, hnew, -⟩ := hadmits
  have hitems : (t.create subscription nodes receiver (.error e)).items = t.items := by
    rw [create, items_foldl items_unroute, items_foldl_route]
  have hroutes : ∀ node,
      (t.create subscription nodes receiver (.error e)).receiver? node = t.receiver? node := by
    intro node
    rw [create, receiver?_foldl receiver?_unroute, receiver?_foldl (receiver?_route receiver)]
    by_cases hnode : node ∈ nodes
    · rw [if_pos hnode, h.receiver?_eq_none (hnew node hnode)]
    · rw [if_neg hnode, if_neg hnode]
  have hchanges : Changes nothing (fun _ => False) t _ := changes_same hitems hroutes fun _ => id
  exact ⟨hchanges, hitems ▸ h.keys, hitems ▸ h.nodes, hchanges.routed h⟩

/-- An answered creation keeps the routes of the nodes that got a good item. -/
theorem Paired.changes_create_ok (h : t.Paired) {answers : List (ItemId × Status)}
    (hadmits : t.Admits (.create subscription nodes receiver (.ok answers))) :
    Changes (Call.create subscription nodes receiver (.ok answers)).Makes (fun _ => False) t
        (t.create subscription nodes receiver (.ok (results nodes answers)))
      ∧ (t.create subscription nodes receiver (.ok (results nodes answers))).Paired := by
  obtain ⟨hnodes, hnew, hlength, hgood, hfresh⟩ := hadmits
  have hkeys : ((entriesFor subscription (results nodes answers)).map (·.1)).Nodup := by
    rw [keys_entriesFor hlength]
    exact hgood.map fun item item' heq => (ItemKey.mk.inj heq).2
  have hnewKeys : ∀ key ∈ (entriesFor subscription (results nodes answers)).map (·.1),
      key ∉ t.items.map (·.1) := by
    rw [keys_entriesFor hlength]
    intro key hkey
    obtain ⟨item, hitem, rfl⟩ := List.mem_map.1 hkey
    exact hfresh item hitem
  have hitems : (t.create subscription nodes receiver (.ok (results nodes answers))).items
      = (entriesFor subscription (results nodes answers)).reverse ++ t.items := by
    rw [create, items_foldl_settle _ _ hkeys (by rwa [items_foldl_route]), items_foldl_route]
  have hchanges : Changes (Call.create subscription nodes receiver (.ok answers)).Makes (fun _ => False) t
      (t.create subscription nodes receiver (.ok (results nodes answers))) := by
    constructor
    · intro key node
      rw [hitems, List.mem_append, List.mem_reverse, mem_entriesFor_iff]
      simp [Call.Makes]
    · intro node receiver'
      rw [receiver?_create_eq_some_iff hnodes hlength]
      refine or_congr ?_ ?_
      · constructor
        · rintro ⟨heq, item, hitem⟩
          exact ⟨⟨subscription, item⟩, rfl, heq, hitem⟩
        · rintro ⟨key, -, heq, hitem⟩
          exact ⟨heq, key.item, hitem⟩
      · -- a node asked for had no item, hence no receiver before
        rw [and_comm]
        refine and_congr_right fun hreceiver => iff_of_true (fun hnode => ?_) fun _ _ => id
        rw [h.receiver?_eq_none (hnew node hnode)] at hreceiver
        exact absurd hreceiver (by simp)
  refine ⟨hchanges, ?_, ?_, hchanges.routed h⟩
  · rw [hitems, List.map_append, List.map_reverse]
    refine List.nodup_append.2 ⟨List.nodup_reverse.2 hkeys, h.keys, fun key hkey key' hkey' heq => ?_⟩
    exact hnewKeys key (List.mem_reverse.1 hkey) (heq ▸ hkey')
  · rw [hitems, List.map_append, List.map_reverse]
    have hsublist : ((entriesFor subscription (results nodes answers)).map (·.2)).Sublist nodes :=
      nodes_entriesFor hlength
    refine List.nodup_append.2 ⟨List.nodup_reverse.2 (hnodes.sublist hsublist), h.nodes, ?_⟩
    intro node hnode node' hnode' heq
    exact hnew node (hsublist.subset (List.mem_reverse.1 hnode)) (heq ▸ hnode')

/-- **One call** makes and ends its items, and keeps routes and items in step. -/
theorem Paired.changes_step (h : t.Paired) {call : Call κ} (hadmits : t.Admits call) :
    Changes call.Makes call.Ends t (t.step call) ∧ (t.step call).Paired := by
  cases call with
  | create subscription nodes receiver answer =>
    cases answer with
    | error e => exact h.changes_create_error hadmits
    | ok answers => exact h.changes_create_ok hadmits
  | delete subscription items answer =>
    cases answer with
    | error e => exact ⟨changes_same rfl (fun _ => rfl) fun _ => id, h⟩
    | ok statuses => exact h.changes_delete subscription items
  | deleteSubscription subscription answer =>
    cases answer with
    | error e => exact ⟨changes_same rfl (fun _ => rfl) fun _ => id, h⟩
    | ok => exact h.changes_deleteSubscription subscription
  | close answer =>
    cases answer with
    | error e => exact ⟨changes_same rfl (fun _ => rfl) fun _ => id, h⟩
    | ok => exact ⟨h.changes_empty, paired_empty⟩

end Calls

/-! ## Runs -/

/-- Calls one after the other. -/
def run (t : RoutingTable κ) (calls : List (Call κ)) : RoutingTable κ := calls.foldl step t

/-- Every call is admitted where it is made. -/
def Orderly (t : RoutingTable κ) : List (Call κ) → Prop
  | [] => True
  | call :: calls => t.Admits call ∧ (t.step call).Orderly calls

instance : (t : RoutingTable κ) → (calls : List (Call κ)) → Decidable (t.Orderly calls)
  | _, [] => inferInstanceAs (Decidable True)
  | t, call :: calls =>
    have : Decidable ((t.step call).Orderly calls) := instDecidableOrderly _ calls
    inferInstanceAs (Decidable (_ ∧ _))

/-- An item was made for the node, with the receiver, and has not ended since. -/
def Stands (calls : List (Call κ)) (key : ItemKey) (node : NodeId) (receiver : κ) : Prop :=
  ∃ before call after, calls = before ++ call :: after ∧ call.Makes key node receiver
    ∧ ∀ later ∈ after, ¬ later.Ends key

section Runs

variable {calls before after : List (Call κ)} {call : Call κ} {key : ItemKey} {node : NodeId}
  {receiver : κ}

@[simp] theorem run_snoc (t : RoutingTable κ) (calls : List (Call κ)) (call : Call κ) :
    t.run (calls ++ [call]) = (t.run calls).step call :=
  List.foldl_concat ..

theorem orderly_append :
    t.Orderly (before ++ after) ↔ t.Orderly before ∧ (t.run before).Orderly after := by
  induction before generalizing t with
  | nil => exact (and_iff_right trivial).symm
  | cons call before ih =>
    show _ ∧ (t.step call).Orderly (before ++ after) ↔ (_ ∧ _) ∧ _
    rw [ih, and_assoc]
    rfl

theorem orderly_snoc :
    t.Orderly (calls ++ [call]) ↔ t.Orderly calls ∧ (t.run calls).Admits call := by
  rw [orderly_append]
  exact and_congr_right fun _ => and_iff_left trivial

/-- What stands after one more call was made by it, or stood before and is not ended by it. -/
theorem stands_snoc : Stands (calls ++ [call]) key node receiver
    ↔ call.Makes key node receiver ∨ Stands calls key node receiver ∧ ¬ call.Ends key := by
  constructor
  · rintro ⟨before, maker, after, hsplit, hmakes, hlater⟩
    rcases List.eq_nil_or_concat after with rfl | ⟨after, last, rfl⟩
    · obtain ⟨-, hlast⟩ := List.append_inj' hsplit rfl
      obtain rfl : call = maker := List.singleton_inj.1 hlast
      exact .inl hmakes
    · rw [List.concat_eq_append] at hsplit hlater
      have hsplit' : calls ++ [call] = (before ++ maker :: after) ++ [last] := by
        rw [hsplit, List.append_assoc, List.cons_append]
      obtain ⟨hcalls, hlast⟩ := List.append_inj' hsplit' rfl
      obtain rfl : call = last := List.singleton_inj.1 hlast
      refine .inr ⟨⟨before, maker, after, hcalls, hmakes, fun later hmem => ?_⟩, ?_⟩
      · exact hlater later (List.mem_append_left _ hmem)
      · exact hlater call (List.mem_append_right _ (List.mem_singleton_self _))
  · rintro (hmakes | ⟨⟨before, maker, after, rfl, hmakes, hlater⟩, hends⟩)
    · exact ⟨calls, call, [], rfl, hmakes, fun _ hmem => absurd hmem List.not_mem_nil⟩
    · refine ⟨before, maker, after ++ [call], by rw [List.append_assoc, List.cons_append], hmakes, ?_⟩
      intro later hmem
      rcases List.mem_append.1 hmem with hmem | hmem
      · exact hlater later hmem
      · exact List.mem_singleton.1 hmem ▸ hends

theorem Paired.run (h : t.Paired) (horderly : t.Orderly calls) : (t.run calls).Paired := by
  induction calls generalizing t with
  | nil => exact h
  | cons call calls ih => exact ih (h.changes_step horderly.1).2 horderly.2

/-- The entries are the items that stand, and each node goes to the receiver that its item was made
with. -/
theorem standing_run (horderly : Orderly {} calls) :
    (∀ key node, (key, node) ∈ (run {} calls).items ↔ ∃ receiver, Stands calls key node receiver)
      ∧ ∀ key node receiver, Stands calls key node receiver
        → (run {} calls).receiver? node = some receiver := by
  induction calls using List.reverseRecOn with
  | nil =>
    have hnone : ∀ key node receiver, ¬ Stands ([] : List (Call κ)) key node receiver := by
      rintro key node receiver ⟨before, call, after, hsplit, -⟩
      simp at hsplit
    constructor
    · intro key node
      simp [hnone, RoutingTable.run]
    · exact fun key node receiver hstands => absurd hstands (hnone key node receiver)
  | append_singleton calls call ih =>
    obtain ⟨hbefore, hadmits⟩ := orderly_snoc.1 horderly
    obtain ⟨hentries, hreceivers⟩ := ih hbefore
    have hpaired : (run {} calls).Paired := paired_empty.run hbefore
    obtain ⟨hchanges, -⟩ := hpaired.changes_step hadmits
    rw [run_snoc]
    constructor
    · intro key node
      simp only [hchanges.entries, hentries, stands_snoc, exists_or, exists_and_right]
    · intro key node receiver hstands
      rw [hchanges.routes]
      rcases stands_snoc.1 hstands with hmakes | ⟨hstood, hends⟩
      · exact .inl ⟨key, hmakes⟩
      · refine .inr ⟨hreceivers key node receiver hstood, fun key' hkey' => ?_⟩
        rw [hpaired.key_unique hkey' ((hentries key node).2 ⟨receiver, hstood⟩)]
        exact hends

end Runs

/-- Routes and items say the same after some calls, and what the calls say. -/
structure Consistent (calls : List (Call κ)) : Prop where
  /-- The nodes with a route are the nodes of the items. -/
  routed : ∀ node, ((run {} calls).receiver? node).isSome ↔ node ∈ (run {} calls).items.map (·.2)
  /-- A node is the node of one item at most. -/
  once : ((run {} calls).items.map (·.2)).Nodup
  /-- The items are those that were made and not ended since. -/
  entries : ∀ key node, (key, node) ∈ (run {} calls).items ↔ ∃ receiver, Stands calls key node receiver
  /-- The changes of a node go to the receiver of the call that made its item. -/
  receivers : ∀ key node receiver, Stands calls key node receiver
    → (run {} calls).receiver? node = some receiver
  /-- Each call made its items and ended those that it deletes, and nothing else. -/
  changes : ∀ before call after, calls = before ++ call :: after
    → Changes call.Makes call.Ends (run {} before) (run {} (before ++ [call]))
  /-- A creation that failed, or was refused for some nodes, left the items and the route of every node for
  which it made none. -/
  refused : ∀ before subscription nodes receiver answer after node,
    calls = before ++ .create subscription nodes receiver answer :: after
    → (∀ key receiver', ¬ (Call.create subscription nodes receiver answer).Makes key node receiver')
    → (run {} (before ++ [.create subscription nodes receiver answer])).receiver? node
        = (run {} before).receiver? node
      ∧ ∀ key, (key, node) ∈ (run {} (before ++ [.create subscription nodes receiver answer])).items
        ↔ (key, node) ∈ (run {} before).items

/-- Orderly calls are consistent: the table is paired behind each of them, and each is a change. -/
theorem Orderly.consistent {calls : List (Call κ)} (horderly : Orderly {} calls) : Consistent calls := by
  have hpaired : (run {} calls).Paired := paired_empty.run horderly
  obtain ⟨hentries, hreceivers⟩ := standing_run horderly
  have hchanges : ∀ before call after, calls = before ++ call :: after
      → Changes call.Makes call.Ends (run {} before) (run {} (before ++ [call])) := by
    rintro before call after rfl
    obtain ⟨hbefore, hadmits, -⟩ := orderly_append.1 horderly
    rw [run_snoc]
    exact ((paired_empty.run hbefore).changes_step hadmits).1
  refine ⟨hpaired.routed, hpaired.nodes, hentries, hreceivers, hchanges, ?_⟩
  intro before subscription nodes receiver answer after node hsplit hmade
  refine (hchanges before _ after hsplit).unchanged hmade fun key _ => ?_
  exact id

/-- **Routing**: whatever the server answers, as long as no node is asked for twice and no number is given
to two items at a time, the routes lead from the nodes of the items to the receivers that asked for them. -/
theorem consistent_run (calls : List (Call κ)) (horderly : Orderly {} calls) : Consistent calls :=
  horderly.consistent

/-- Of three nodes one is refused; the next call fails as a whole; one node loses its item and gets
another on a second subscription, from another receiver, along with the node refused before; then the first
subscription goes. -/
def answersExample : List (Call String) :=
  let node (n : UInt32) : NodeId := ⟨0, .numeric n⟩
  [.create ⟨1⟩ [node 1, node 2, node 3] "first" (.ok [(⟨1⟩, .good), (⟨0⟩, .nodeIdUnknown), (⟨2⟩, .good)]),
    .create ⟨1⟩ [node 4, node 2] "second" (.error .closed),
    .delete ⟨1⟩ [⟨1⟩, ⟨7⟩] (.ok [.good, .itemIdInvalid]),
    .create ⟨2⟩ [node 1, node 2] "third" (.ok [(⟨1⟩, .good), (⟨2⟩, .good)]),
    .deleteSubscription ⟨1⟩ (.ok ())]

theorem consistent_answersExample :
    Orderly {} answersExample ∧ (run {} answersExample).items
        = [(⟨⟨2⟩, ⟨2⟩⟩, ⟨0, .numeric 2⟩), (⟨⟨2⟩, ⟨1⟩⟩, ⟨0, .numeric 1⟩)]
      ∧ (run {} answersExample).receiver? ⟨0, .numeric 1⟩ = some "third"
      ∧ (run {} answersExample).receiver? ⟨0, .numeric 3⟩ = none
      ∧ Consistent answersExample :=
  ⟨by decide, by decide, by decide, by decide, consistent_run answersExample (by decide)⟩

end RoutingTable

end FieldBridge
