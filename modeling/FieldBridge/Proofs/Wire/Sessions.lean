/-
  Sessions over the wire.

  A client keeps the routing table of its session by what the server answers.  The server numbers the items
  of a subscription from 1 on and never gives a number twice, so the table stays consistent as long as the
  client asks for no node that it has.

  1. **Numbers** — what the server has numbered on a subscription (`Plant.numberedOn`) only grows, and the
     items that it makes have the next numbers (`Plant.fresh_createItems`).

  2. **Calls** — what a session does is a call on its table, which the table admits (`Serves`).

  3. **Invariant** (`Given`) — the table holds no number that the server has still to give.

  4. **Runs** (`consistent_session`) — so after any calls the table of a session is consistent.
-/

import FieldBridge.Proofs.Wire.Routing
import FieldBridge.Wire.Session

namespace FieldBridge

open RoutingTable (Call results goodItems)

/-! ## Numbers -/

namespace Plant

/-- The number of the last item made on a subscription. -/
def numberedOn (p : Plant) (id : SubscriptionId) : Nat :=
  ((p.subscriptions.find? (·.id = id)).map (·.created)).getD 0

/-- Where subscriptions are changed in place, the numbers follow the counters. -/
theorem numberedOn_map (p : Plant) {f : PlantSubscription → PlantSubscription}
    (hid : ∀ s, (f s).id = s.id) {g : SubscriptionId → Nat → Nat}
    (hf : ∀ s, (f s).created = g s.id s.created) (id : SubscriptionId) :
    ({ p with subscriptions := p.subscriptions.map f } : Plant).numberedOn id
      = ((p.subscriptions.find? (·.id = id)).map fun s => g id s.created).getD 0 := by
  have hfind : (p.subscriptions.map f).find? (·.id = id)
      = (p.subscriptions.find? (·.id = id)).map f := by
    rw [List.find?_map]
    simp only [Function.comp_def, hid]
  rw [numberedOn, hfind]
  cases hs : p.subscriptions.find? (·.id = id) with
  | none => rfl
  | some s =>
    have hsame : s.id = id := by simpa using List.find?_some hs
    show (f s).created = g id s.created
    rw [hf, hsame]

theorem numberedOn_subscribe (p : Plant) (id : SubscriptionId) :
    p.subscribe.2.numberedOn id = p.numberedOn id := by
  let new : PlantSubscription := { id := ⟨p.numbered + 1⟩ }
  show (((p.subscriptions ++ [new]).find? (·.id = id)).map (·.created)).getD 0 = p.numberedOn id
  rw [List.find?_append, numberedOn]
  cases p.subscriptions.find? (·.id = id) with
  | some s => rfl
  | none =>
    rw [Option.none_or, List.find?_singleton]
    split
    · rfl
    · rfl

theorem numberedOn_unsubscribe (p : Plant) {id other : SubscriptionId} (h : other ≠ id) :
    (p.unsubscribe id).numberedOn other = p.numberedOn other := by
  have hfind : (p.subscriptions.filter (·.id ≠ id)).find? (·.id = other)
      = p.subscriptions.find? (·.id = other) := by
    rw [List.find?_filter]
    congr 1
    funext s
    by_cases hs : s.id = other
    · simp [hs, h]
    · simp [hs]
  rw [numberedOn, numberedOn, ← hfind]
  rfl

theorem numberedOn_deleteItem (p : Plant) (id : SubscriptionId) (item : ItemId)
    (other : SubscriptionId) : (p.deleteItem id item).2.numberedOn other = p.numberedOn other := by
  unfold deleteItem
  split
  · refine numberedOn_map p (fun s => ?_) (fun s => ?_) other (g := fun _ created => created)
    · split
      · rfl
      · rfl
    · split
      · rfl
      · rfl
  · rfl

/-- Deleting items gives no numbers back. -/
theorem numberedOn_deleteItems (p : Plant) (id : SubscriptionId) (items : List ItemId)
    (other : SubscriptionId) : (p.deleteItems id items).2.numberedOn other = p.numberedOn other := by
  induction items generalizing p with
  | nil => rfl
  | cons item items ih => exact (ih _).trans (numberedOn_deleteItem p id item other)

/-- An item is made and has the next number, or nothing has changed. -/
theorem createItem_cases (p : Plant) (id : SubscriptionId) (node : NodeId) :
    ((p.createItem id node).1 = ⟨node, ⟨p.numberedOn id + 1⟩, .good⟩
      ∧ ∀ other, (p.createItem id node).2.numberedOn other
        = if other = id then p.numberedOn id + 1 else p.numberedOn other)
    ∨ (p.createItem id node).1.status.isGood = false ∧ (p.createItem id node).2 = p := by
  unfold createItem
  split
  · rename_i s v hs hv
    have hnumber : p.numberedOn id = s.created := by
      rw [numberedOn, hs]
      rfl
    refine Or.inl ⟨by rw [hnumber], fun other => ?_⟩
    have hcounted := numberedOn_map p (f := fun t =>
      if t.id = id then { t with created := t.created + 1, items := t.items ++ [⟨s.created + 1⟩] } else t)
      (g := fun other created => if other = id then created + 1 else created)
      (fun t => by split <;> rfl) (fun t => by split <;> rfl) other
    refine hcounted.trans ?_
    by_cases hother : other = id
    · simp only [hother, if_true, hs, hnumber]
      rfl
    · simp only [if_neg hother]
      rfl
  · exact Or.inr ⟨(by decide : Status.nodeIdUnknown.isGood = false), rfl⟩

end Plant

/-- What the server answers for each item. -/
def answersOf (rs : List ItemResult) : List (ItemId × Status) := rs.map fun r => (r.item, r.status)

theorem goodItems_cons (r : ItemResult) (rs : List ItemResult) : goodItems (answersOf (r :: rs))
    = if r.status.isGood then r.item :: goodItems (answersOf rs) else goodItems (answersOf rs) := by
  unfold goodItems
  show (List.filter _ ((r.item, r.status) :: answersOf rs)).map (·.1) = _
  rw [List.filter_cons]
  split
  · rfl
  · rfl

namespace Plant

theorem createItems_cons (p : Plant) (id : SubscriptionId) (node : NodeId) (nodes : List NodeId) :
    p.createItems id (node :: nodes)
      = ((p.createItem id node).1 :: ((p.createItem id node).2.createItems id nodes).1,
        ((p.createItem id node).2.createItems id nodes).2) := rfl

/-- **Items that are made** have new numbers, and so many more have been given. -/
theorem fresh_createItems (p : Plant) (id : SubscriptionId) (nodes : List NodeId) :
    (goodItems (answersOf (p.createItems id nodes).1)).Nodup
    ∧ (∀ item ∈ goodItems (answersOf (p.createItems id nodes).1),
      p.numberedOn id < item.number ∧ item.number ≤ (p.createItems id nodes).2.numberedOn id)
    ∧ ∀ other, p.numberedOn other ≤ (p.createItems id nodes).2.numberedOn other := by
  induction nodes generalizing p with
  | nil =>
    exact ⟨List.nodup_nil, fun item hitem => absurd hitem List.not_mem_nil, fun _ => Nat.le_refl _⟩
  | cons node nodes ih =>
    obtain ⟨hnodup, hnumbers, hgrows⟩ := ih (p.createItem id node).2
    rw [createItems_cons]
    dsimp only
    rw [goodItems_cons]
    rcases p.createItem_cases id node with ⟨hresult, hnext⟩ | ⟨hbad, hsame⟩
    · -- the numbers of the others are greater
      have hself : (p.createItem id node).2.numberedOn id = p.numberedOn id + 1 := by
        rw [hnext, if_pos rfl]
      rw [hself] at hnumbers
      rw [hresult, if_pos (by decide : Status.good.isGood = true)]
      refine ⟨List.nodup_cons.2 ⟨fun hmem => ?_, hnodup⟩, fun item hitem => ?_, fun other => ?_⟩
      · exact Nat.lt_irrefl _ (hnumbers _ hmem).1
      · rcases List.mem_cons.1 hitem with rfl | hrest
        · exact ⟨Nat.lt_succ_self _, hself ▸ hgrows id⟩
        · obtain ⟨hgreater, hmost⟩ := hnumbers item hrest
          exact ⟨Nat.lt_of_succ_lt hgreater, hmost⟩
      · refine Nat.le_trans ?_ (hgrows other)
        rw [hnext]
        split
        · rename_i hother
          rw [hother]
          exact Nat.le_succ _
        · exact Nat.le_refl _
    · rw [hsame] at hnodup hnumbers hgrows ⊢
      rw [if_neg (by rw [hbad]; decide)]
      exact ⟨hnodup, hnumbers, hgrows⟩

/-- A server answers for every node in turn. -/
theorem map_node_createItems (p : Plant) (id : SubscriptionId) (nodes : List NodeId) :
    (p.createItems id nodes).1.map (·.node) = nodes := by
  induction nodes generalizing p with
  | nil => rfl
  | cons node nodes ih =>
    have hnode : (p.createItem id node).1.node = node := by
      unfold createItem
      split
      · rfl
      · rfl
    rw [createItems_cons, List.map_cons, hnode, ih]

end Plant

/-- Results are made of the nodes that they name. -/
theorem results_answersOf (rs : List ItemResult) : results (rs.map (·.node)) (answersOf rs) = rs := by
  rw [results, answersOf, List.zip_map', List.map_map]
  exact List.map_id rs

/-! ## Calls -/

/-- What a client can ask of its session. -/
inductive SessionCall where
  | subscribe
  | unsubscribe (id : SubscriptionId)
  | monitor (id : SubscriptionId) (requests : List MonitorRequest) (observer : Observer)
  | unmonitor (id : SubscriptionId) (items : List ItemId)
  | disconnect

namespace WireClient

/-- The table of the session. -/
def table? (c : WireClient) : Option (RoutingTable Observer) := c.session.map (·.table)

/-- What a call does on a session. -/
def perform (c : WireClient) (s : WireSession) : SessionCall → WireClient
  | .subscribe => c.subscribe s
  | .unsubscribe id => (c.unsubscribe s id).2
  | .monitor id requests observer => (c.monitor s id requests observer).2
  | .unmonitor id items => (c.unmonitor s id items).2
  | .disconnect => (c.disconnect s).2

/-- What it is on the table, with the server's answer. -/
def onTable (c : WireClient) (s : WireSession) : SessionCall → List (Call Observer)
  | .subscribe => []
  | .unsubscribe id => [.deleteSubscription id (c.unsubscribe s id).1]
  | .monitor id requests observer =>
    [.create id (requests.map (·.node)) observer ((c.monitor s id requests observer).1.map answersOf)]
  | .unmonitor id items => [.delete id items (c.unmonitor s id items).1]
  | .disconnect => [.close (c.disconnect s).1]

/-- The call asks for items once for every node, and only where the session has none. -/
def Asks (t : RoutingTable Observer) : SessionCall → Prop
  | .monitor _ requests _ => (requests.map (·.node)).Nodup
    ∧ ∀ request ∈ requests, request.node ∉ t.items.map (·.2)
  | _ => True

/-- The server has numbered the items of the table. -/
def Given (c : WireClient) (t : RoutingTable Observer) : Prop :=
  ∀ p ∈ t.items, p.1.item.number ≤ c.plant.numberedOn p.1.subscription

/-- A call on a session is a call on its table, which the table admits; what it makes has been numbered, and
of what it does not end no number is given back. -/
structure Serves (c c' : WireClient) (t : RoutingTable Observer) (call : Call Observer) : Prop where
  table : c'.table? = some (t.step call)
  admits : t.Admits call
  made : ∀ key node receiver, call.Makes key node receiver →
    key.item.number ≤ c'.plant.numberedOn key.subscription
  kept : ∀ key, ¬ call.Ends key →
    c.plant.numberedOn key.subscription ≤ c'.plant.numberedOn key.subscription

variable {c c' : WireClient} {s : WireSession} {t : RoutingTable Observer} {id : SubscriptionId}

theorem table?_of_session (h : c.session = some s) : c.table? = some s.table := by
  rw [table?, h]
  rfl

/-- **Calls** keep the numbers of the table among those given. -/
theorem Serves.given {call : Call Observer} (h : Serves c c' t call) (hpaired : t.Paired)
    (hgiven : c.Given t) : c'.Given (t.step call) := by
  obtain ⟨hchanges, -⟩ := hpaired.changes_step h.admits
  rintro ⟨key, node⟩ hentry
  rcases (hchanges.entries key node).1 hentry with ⟨receiver, hmade⟩ | ⟨hbefore, hkept⟩
  · exact h.made key node receiver hmade
  · exact Nat.le_trans (hgiven _ hbefore) (h.kept key hkept)

/-- What a creation makes is one of the good items. -/
theorem mem_goodItems {nodes : List NodeId} {answers : List (ItemId × Status)} {node : NodeId}
    {item : ItemId} (h : RoutingTable.Answered nodes answers node item) : item ∈ goodItems answers := by
  obtain ⟨place, status, -, hanswer, hgood⟩ := h
  exact List.mem_map.2 ⟨(item, status), List.mem_filter.2 ⟨List.mem_of_getElem? hanswer, hgood⟩, rfl⟩

/-- A call that makes nothing and that the server does not see leaves all numbers as they are. -/
theorem serves_of_plant {call : Call Observer} (htable : c'.table? = some (t.step call))
    (hadmits : t.Admits call) (hnone : ∀ key node receiver, ¬ call.Makes key node receiver)
    (hplant : c'.plant = c.plant) : Serves c c' t call where
  table := htable
  admits := hadmits
  made := fun key node receiver hmade => absurd hmade (hnone key node receiver)
  kept := fun key _ => Nat.le_of_eq (by rw [hplant])

/-- A creation that the client refuses makes nothing. -/
theorem serves_refused {nodes : List NodeId} {observer : Observer} {e : TransportError}
    (hnodup : nodes.Nodup) (hnew : ∀ node ∈ nodes, node ∉ s.table.items.map (·.2)) :
    Serves c { c with
      session := some { s with table := s.table.create id nodes observer (.error e) } } s.table
      (.create id nodes observer (.error e)) :=
  serves_of_plant rfl ⟨hnodup, hnew, trivial⟩ (fun _ _ _ hmade => hmade) rfl

theorem serves_monitor (requests : List MonitorRequest) (observer : Observer)
    (hasks : Asks s.table (.monitor id requests observer)) (hgiven : c.Given s.table) :
    Serves c (c.monitor s id requests observer).2 s.table (.create id (requests.map (·.node)) observer
      ((c.monitor s id requests observer).1.map answersOf)) := by
  obtain ⟨hnodup, hnew⟩ := hasks
  have hnodes : ∀ node ∈ requests.map (·.node), node ∉ s.table.items.map (·.2) := by
    intro node hnode
    obtain ⟨request, hrequest, rfl⟩ := List.mem_map.1 hnode
    exact hnew request hrequest
  unfold monitor
  split
  · exact serves_refused hnodup hnodes
  split
  · exact serves_refused hnodup hnodes
  · have hanswered := c.plant.map_node_createItems id (requests.map (·.node))
    obtain ⟨hdistinct, hnumbers, hgrows⟩ := c.plant.fresh_createItems id (requests.map (·.node))
    have hresults := results_answersOf (c.plant.createItems id (requests.map (·.node))).1
    rw [hanswered] at hresults
    constructor
    · show some (s.table.create _ _ _ (.ok _)) = some (s.table.create _ _ _ (.ok _))
      rw [hresults]
    · refine ⟨hnodup, hnodes, ?_, hdistinct, fun item hitem hmem => ?_⟩
      · have hlength := congrArg List.length hanswered
        rw [List.length_map] at hlength
        exact (List.length_map _).trans hlength
      · -- the table has no number as great as a new one
        obtain ⟨⟨key, node⟩, hentry, heq⟩ := List.mem_map.1 hmem
        have hold : key.item.number ≤ c.plant.numberedOn key.subscription := hgiven _ hentry
        obtain rfl : key = ⟨id, item⟩ := heq
        exact absurd hold (Nat.not_le.2 (hnumbers item hitem).1)
    · rintro key node receiver ⟨rfl, -, hitem⟩
      exact (hnumbers _ (mem_goodItems hitem)).2
    · exact fun key _ => hgrows key.subscription

theorem serves_unmonitor (hsession : c.session = some s) (items : List ItemId) :
    Serves c (c.unmonitor s id items).2 s.table (.delete id items (c.unmonitor s id items).1) := by
  have htable := table?_of_session hsession
  unfold unmonitor
  split
  · exact serves_of_plant htable trivial (fun _ _ _ hmade => hmade) rfl
  split
  · exact serves_of_plant htable trivial (fun _ _ _ hmade => hmade) rfl
  · refine ⟨rfl, trivial, fun _ _ _ hmade => False.elim hmade, fun key _ => ?_⟩
    exact Nat.le_of_eq (c.plant.numberedOn_deleteItems id items key.subscription).symm

theorem serves_unsubscribe (hsession : c.session = some s) :
    Serves c (c.unsubscribe s id).2 s.table (.deleteSubscription id (c.unsubscribe s id).1) := by
  have htable := table?_of_session hsession
  unfold unsubscribe
  split
  · refine ⟨rfl, trivial, fun _ _ _ hmade => False.elim hmade, fun key hkept => ?_⟩
    exact Nat.le_of_eq (c.plant.numberedOn_unsubscribe hkept).symm
  · exact serves_of_plant htable trivial (fun _ _ _ hmade => hmade) rfl

theorem serves_disconnect (hsession : c.session = some s) :
    Serves c (c.disconnect s).2 s.table (.close (c.disconnect s).1) := by
  have htable := table?_of_session hsession
  unfold disconnect
  split
  · exact serves_of_plant htable trivial (fun _ _ _ hmade => hmade) rfl
  · exact serves_of_plant rfl trivial (fun _ _ _ hmade => hmade) rfl

/-! ## Runs -/

/-- One call; without a session there is nothing to ask. -/
def act (c : WireClient) (call : SessionCall) : WireClient :=
  match c.session with
  | some s => c.perform s call
  | none => c

/-- Calls one after the other. -/
def actAll (c : WireClient) (calls : List SessionCall) : WireClient := calls.foldl act c

/-- What the calls are on the table. -/
def allOnTable (c : WireClient) : List SessionCall → List (Call Observer)
  | [] => []
  | call :: calls => (match c.session with
    | some s => c.onTable s call
    | none => []) ++ (c.act call).allOnTable calls

/-- Every call asks only for items that the session does not have. -/
def AllAsk (c : WireClient) : List SessionCall → Prop
  | [] => True
  | call :: calls => (∀ t, c.table? = some t → Asks t call) ∧ (c.act call).AllAsk calls

/-- **Step**: a call of a session is an orderly one on its table. -/
theorem Given.act {call : SessionCall} (hgiven : c.Given s.table) (hpaired : s.table.Paired)
    (hsession : c.session = some s) (hasks : Asks s.table call) :
    s.table.Orderly (c.onTable s call) ∧ (c.act call).table? = some (s.table.run (c.onTable s call))
      ∧ (c.act call).Given (s.table.run (c.onTable s call)) := by
  have hact : c.act call = c.perform s call := by rw [WireClient.act, hsession]
  have hserved {k : Call Observer} (hserves : Serves c (c.perform s call) s.table k) :
      s.table.Orderly [k] ∧ (c.perform s call).table? = some (s.table.run [k])
        ∧ (c.perform s call).Given (s.table.run [k]) :=
    ⟨⟨hserves.admits, trivial⟩, hserves.table, hserves.given hpaired hgiven⟩
  rw [hact]
  cases call with
  | subscribe =>
    refine ⟨trivial, rfl, fun p hp => ?_⟩
    exact Nat.le_trans (hgiven p hp) (Nat.le_of_eq (c.plant.numberedOn_subscribe _).symm)
  | unsubscribe id => exact hserved (serves_unsubscribe hsession)
  | monitor id requests observer => exact hserved (serves_monitor requests observer hasks hgiven)
  | unmonitor id items => exact hserved (serves_unmonitor hsession items)
  | disconnect => exact hserved (serves_disconnect hsession)

/-- **Run**: the calls of a session are orderly ones on its table. -/
theorem Given.actAll {calls : List SessionCall} (hgiven : c.Given t) (hpaired : t.Paired)
    (htable : c.table? = some t) (hasks : c.AllAsk calls) :
    t.Orderly (c.allOnTable calls) ∧ (c.actAll calls).table? = some (t.run (c.allOnTable calls)) := by
  induction calls generalizing c t with
  | nil => exact ⟨trivial, htable⟩
  | cons call calls ih =>
    obtain ⟨s, hsession, rfl⟩ := Option.map_eq_some_iff.1 htable
    obtain ⟨hask, hrest⟩ := hasks
    obtain ⟨horderly, htable', hgiven'⟩ := hgiven.act hpaired hsession (hask _ htable)
    obtain ⟨hmore, hend⟩ := ih hgiven' (hpaired.run horderly) htable' hrest
    have hcalls : c.allOnTable (call :: calls)
        = c.onTable s call ++ (c.act call).allOnTable calls := by
      rw [allOnTable, hsession]
    rw [hcalls]
    refine ⟨RoutingTable.orderly_append.2 ⟨horderly, hmore⟩, hend.trans (congrArg some ?_)⟩
    exact (List.foldl_append ..).symm

/-- **Sessions are consistent**: whatever a client asks of a session that it has opened, subscriptions and
items made and deleted in any order, as long as it asks for no node that the session has, the routes lead
from the nodes of the items to the observers that asked for them. -/
theorem consistent_session (c : WireClient) (hopened : c.session = some {}) (calls : List SessionCall)
    (hasks : c.AllAsk calls) :
    (c.actAll calls).table? = some (RoutingTable.run {} (c.allOnTable calls))
      ∧ RoutingTable.Consistent (c.allOnTable calls) := by
  have hgiven : c.Given {} := fun p hp => absurd hp List.not_mem_nil
  have htable := table?_of_session hopened
  obtain ⟨horderly, hend⟩ := hgiven.actAll RoutingTable.paired_empty htable hasks
  exact ⟨hend, horderly.consistent⟩

end WireClient

end FieldBridge
