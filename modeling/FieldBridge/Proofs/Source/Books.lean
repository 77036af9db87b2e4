/-
  The books of a client.

  Three stores say what is monitored: the entries of the current connection, the claims of the calls in
  progress and the items on the server.  They are written at different times, so they differ while calls
  are in progress, but never by more than what those calls hold:

  1. **Connected** (`Books`) — the entries made, with those that calls are about to make, are the items on
     the server; the pending nodes are those that calls have claimed; no node is in two places.  Before
     there is a subscription there are no items.

  2. **Disconnected** — nothing is left on the server.

  3. **Earlier connections** — what they still list is no longer there, and its numbers are not used again,
     so that an unmonitor call that comes late deletes nothing.

  A connection's subscription is created at most once, since it is created only as long as it is not
  there and stays as long as the connection.  Whatever changes the current connection and the server keeps
  the invariant if it keeps the books and gives new items new numbers (`Inv.progress`).
-/

import Mathlib.Data.List.Nodup
import FieldBridge.Proofs.Server.Items
import FieldBridge.Proofs.Source.Entries
import FieldBridge.Source.Client

namespace FieldBridge

/-! ## What calls hold -/

namespace MonitorCall

/-- The nodes that a call has claimed. -/
def claim : MonitorCall → Claim
  | .asking _ => []
  | .waiting _ claim | .opening _ claim _ | .recording _ claim _ => claim

/-- The entries that a call is about to make. -/
def entries : MonitorCall → List (NodeId × Monitored)
  | .recording _ claim (.ok results) => Connection.entries claim results
  | _ => []

/-- The connection that a call is on, once it has looked it up. -/
def connection? : MonitorCall → Option ConnectionId
  | .asking _ => none
  | .waiting id _ | .opening id _ _ | .recording id _ _ => some id

/-- A call is creating a subscription. -/
def isOpening : MonitorCall → Bool
  | .opening _ _ _ => true
  | _ => false

/-- A call is on the connection, and where it waits goes with the state of the subscription. -/
def Fits (id : ConnectionId) (subscription : SharedSubscription) : MonitorCall → Prop
  | .asking _ => True
  | .waiting own _ => own = id
  | .opening own _ _ => own = id ∧ subscription = .opening
  | .recording own claim answer => own = id ∧ (∃ s, subscription = .ready s)
    ∧ ∃ results, answer = .ok results ∧ results.map (·.node) = claim.nodes

/-- As long as there is no subscription and none is being created, calls have no entries to make and are
not creating one; so they fit whatever the subscription becomes. -/
theorem Fits.of_absent {id : ConnectionId} {call : MonitorCall} (h : call.Fits id .absent)
    (subscription : SharedSubscription) :
    call.Fits id subscription ∧ call.entries = [] ∧ call.isOpening = false := by
  cases call with
  | asking texts => exact ⟨trivial, rfl, rfl⟩
  | waiting own claim => exact ⟨h, rfl, rfl⟩
  | opening own claim due => exact absurd h.2 (by decide)
  | recording own claim answer =>
    obtain ⟨-, ⟨s, hs⟩, -⟩ := h
    exact absurd hs (by simp)

/-- The same while one is being created, for all calls but the one that creates it. -/
theorem Fits.of_opening {id : ConnectionId} {call : MonitorCall} (h : call.Fits id .opening)
    (hother : call.isOpening = false) (subscription : SharedSubscription) :
    call.Fits id subscription ∧ call.entries = [] := by
  cases call with
  | asking texts => exact ⟨trivial, rfl⟩
  | waiting own claim => exact ⟨h, rfl⟩
  | opening own claim due => exact absurd hother (by simp [isOpening])
  | recording own claim answer =>
    obtain ⟨-, ⟨s, hs⟩, -⟩ := h
    exact absurd hs (by simp)

/-- The subscriptions that a step of a call has added to those on a server, each with the connection of the
call. -/
def credit (call : MonitorCall) (before after : Server) : List (ConnectionId × SubscriptionId) :=
  match call.connection? with
  | none => []
  | some id => (after.subscriptions.drop before.subscriptions.length).map fun s => (id, s)

/-- A step that adds no subscription has no credit. -/
theorem credit_same (call : MonitorCall) {before after : Server}
    (h : after.subscriptions = before.subscriptions) : call.credit before after = [] := by
  unfold credit
  rw [h, List.drop_length]
  split <;> rfl

end MonitorCall

/-- The entry that stands for an item. -/
def ServerItem.entry (i : ServerItem) : NodeId × Monitored :=
  (i.node, ⟨i.observer.spelling i.node, i.id⟩)

/-- The items made of the answers to a claim are the entries that recording them makes. -/
theorem entry_made (subscription : SubscriptionId) (claim : Claim) (results : List ItemResult) :
    (Server.made subscription ⟨claim⟩ results).map (·.entry) = Connection.entries claim results := by
  rw [Server.made, List.map_map]
  rfl

/-! ## The books -/

/-- All there is on the server belongs to the subscription of a connection. -/
def SharedSubscription.Holds (s : Server) : SharedSubscription → Prop
  | .ready id => s.subscriptions = [id] ∧ ∀ i ∈ s.items, i.subscription = id
  | _ => s.subscriptions = [] ∧ s.items = []

/-- Items may go. -/
theorem SharedSubscription.Holds.subset {s s' : Server} {subscription : SharedSubscription}
    (h : subscription.Holds s) (hsubscriptions : s'.subscriptions = s.subscriptions)
    (hitems : ∀ i ∈ s'.items, i ∈ s.items) : subscription.Holds s' := by
  cases subscription with
  | ready id => exact ⟨hsubscriptions.trans h.1, fun i hi => h.2 i (hitems i hi)⟩
  | absent | opening =>
    refine ⟨hsubscriptions.trans h.1, List.eq_nil_iff_forall_not_mem.2 fun i hi => ?_⟩
    exact absurd (h.2 ▸ hitems i hi) List.not_mem_nil

/-- Where entries have different nodes and different items, the items of some of them are those of their
nodes. -/
theorem item_mem_iff_node_mem {entries targets : List (NodeId × Monitored)}
    (hitems : (entries.map (·.2.item)).Nodup) (hnodes : (entries.map (·.1)).Nodup)
    (htargets : ∀ t ∈ targets, t ∈ entries) {p : NodeId × Monitored} (hp : p ∈ entries) :
    p.2.item ∈ targets.map (·.2.item) ↔ p.1 ∈ targets.map (·.1) := by
  constructor
  · intro hmem
    obtain ⟨t, ht, heq⟩ := List.mem_map.1 hmem
    obtain rfl : t = p := List.inj_on_of_nodup_map hitems (htargets t ht) hp heq
    exact List.mem_map_of_mem ht
  · intro hmem
    obtain ⟨t, ht, heq⟩ := List.mem_map.1 hmem
    obtain rfl : t = p := List.inj_on_of_nodup_map hnodes (htargets t ht) hp heq
    exact List.mem_map_of_mem ht

/-- Deleting the items of some entries and these entries leaves the same of both. -/
theorem perm_delete {entries others targets : List (NodeId × Monitored)} {items : List ServerItem}
    (hentries : (entries ++ others).Perm (items.map (·.entry))) (hids : (items.map (·.id)).Nodup)
    (hnodes : (entries.map (·.1)).Nodup) (htargets : ∀ t ∈ targets, t ∈ entries) :
    (entries.filter (·.1 ∉ targets.map (·.1)) ++ others).Perm
      ((items.filter (·.id ∉ targets.map (·.2.item))).map (·.entry)) := by
  have hnumbers : ((entries ++ others).map (·.2.item)).Nodup := by
    refine (hentries.map (·.2.item)).nodup_iff.2 ?_
    rw [List.map_map]
    exact hids
  rw [List.map_append, List.nodup_append] at hnumbers
  obtain ⟨hown, -, hdisjoint⟩ := hnumbers
  -- of the entries, those whose items go are those whose nodes are named
  have hsame : entries.filter (·.2.item ∉ targets.map (·.2.item))
      = entries.filter (·.1 ∉ targets.map (·.1)) := by
    refine List.filter_congr fun p hp => ?_
    simp only [item_mem_iff_node_mem hown hnodes htargets hp]
  have hothers : others.filter (·.2.item ∉ targets.map (·.2.item)) = others := by
    refine List.filter_eq_self.2 fun p hp => decide_eq_true fun hmem => ?_
    obtain ⟨t, ht, heq⟩ := List.mem_map.1 hmem
    exact hdisjoint _ (List.mem_map_of_mem (htargets t ht)) _ (List.mem_map_of_mem hp) heq
  have hfilter := hentries.filter (·.2.item ∉ targets.map (·.2.item))
  rw [List.filter_append, hsame, hothers, List.filter_map] at hfilter
  exact hfilter

/-- The current connection, the calls in progress and the server agree. -/
structure Books (s : Server) (calls : List MonitorCall) (id : ConnectionId) (n : Connection) :
    Prop where
  isOpen : s.closed = false
  holds : n.subscription.Holds s
  entries : (n.monitored ++ calls.flatMap (·.entries)).Perm (s.items.map (·.entry))
  pending : n.pending.Perm (calls.flatMap (·.claim.nodes))
  nodup : (n.monitored.map (·.1) ++ calls.flatMap (·.claim.nodes)).Nodup
  fits : ∀ call ∈ calls, call.Fits id n.subscription
  /-- A call is creating the subscription as long as the connection says so. -/
  openings : calls.countP (·.isOpening) = if n.subscription = .opening then 1 else 0

/-- **The invariant** of a client, of the monitor calls in progress over it and of the subscriptions
created so far, each with the connection that it was created for. -/
structure Client.Inv (c : Client) (calls : List MonitorCall)
    (created : List (ConnectionId × SubscriptionId)) : Prop where
  faultless : c.link.faults = {}
  numbered : ∀ i ∈ c.link.server.items, i.id.number ≤ c.link.server.numbered
  ids : (c.link.server.items.map (·.id)).Nodup
  valid : ∀ id, c.manager.current = some id → ∃ n, c.manager.get? id = some n
  connected : ∀ id n, c.manager.connection? = some (id, n) → Books c.link.server calls id n
  disconnected : c.manager.connection? = none → c.link.server.subscriptions = []
    ∧ c.link.server.items = [] ∧ ∀ call ∈ calls, ∃ texts, call = .asking texts
  earlier : ∀ id n, c.manager.get? id = some n → c.manager.current ≠ some id →
    ∀ p ∈ n.monitored, p.2.item.number ≤ c.link.server.numbered
      ∧ ∀ i ∈ c.link.server.items, i.id ≠ p.2.item
  created_once : (created.map (·.1)).Nodup
  created_known : ∀ p ∈ created, p.1.index < c.manager.connections.length
  created_ready : ∀ id n, c.manager.connection? = some (id, n) → id ∈ created.map (·.1) →
    ∃ s, n.subscription = .ready s

namespace Books

variable {s : Server} {call : MonitorCall} {calls calls' rest : List MonitorCall} {id : ConnectionId}
  {n : Connection}

/-- The order of the calls does not matter. -/
theorem perm (h : Books s calls id n) (hperm : calls.Perm calls') : Books s calls' id n where
  isOpen := h.isOpen
  holds := h.holds
  entries := ((hperm.symm.flatMap_right _).append_left _).trans h.entries
  pending := h.pending.trans (hperm.flatMap_right _)
  nodup := ((hperm.flatMap_right _).append_left _).nodup h.nodup
  fits := fun call hcall => h.fits call (hperm.mem_iff.2 hcall)
  openings := hperm.countP_eq _ ▸ h.openings

/-- A call that holds nothing can be left out. -/
theorem drop (h : Books s (call :: rest) id n) (hclaim : call.claim = [])
    (hentries : call.entries = []) (hopening : call.isOpening = false) : Books s rest id n where
  isOpen := h.isOpen
  holds := h.holds
  entries := by simpa [hentries] using h.entries
  pending := by simpa [hclaim, Claim.nodes] using h.pending
  nodup := by simpa [hclaim, Claim.nodes] using h.nodup
  fits := fun other hother => h.fits other (List.mem_cons_of_mem call hother)
  openings := by simpa [List.countP_cons, hopening] using h.openings

/-- A call that has not begun can be added. -/
theorem ask (h : Books s rest id n) (texts : List String) :
    Books s (.asking texts :: rest) id n where
  isOpen := h.isOpen
  holds := h.holds
  entries := h.entries
  pending := h.pending
  nodup := h.nodup
  fits := List.forall_mem_cons.2 ⟨trivial, h.fits⟩
  openings := by simpa [List.countP_cons, MonitorCall.isOpening] using h.openings

/-- A call that has begun holds the nodes that it has claimed. -/
theorem claim (h : Books s rest id n) (texts : List String) :
    Books s (.waiting id (n.claim texts).2.1 :: rest) id (n.claim texts).2.2 where
  isOpen := h.isOpen
  holds := h.holds
  entries := h.entries
  pending := by
    have hown : (n.claim texts).2.2.pending = n.pending ++ (n.claim texts).2.1.nodes := rfl
    rw [hown]
    exact (h.pending.append_right _).trans List.perm_append_comm
  nodup := by
    obtain ⟨hclaim, hfree⟩ := n.nodup_claim texts
    obtain ⟨hmonitored, hcalls, hdisjoint⟩ := List.nodup_append.1 h.nodup
    show (n.monitored.map (·.1) ++ ((n.claim texts).2.1.nodes
      ++ rest.flatMap (·.claim.nodes))).Nodup
    refine List.nodup_append.2 ⟨hmonitored, List.nodup_append.2 ⟨hclaim, hcalls, ?_⟩, ?_⟩
    · intro node hnode other hother heq
      exact (hfree node hnode).2 (h.pending.mem_iff.2 (heq ▸ hother))
    · intro node hnode other hother heq
      rcases List.mem_append.1 hother with hown | hrest
      · exact (hfree other hown).1 (heq ▸ hnode)
      · exact hdisjoint node hnode other hrest heq
  fits := List.forall_mem_cons.2 ⟨rfl, h.fits⟩
  openings := by
    have hsame : (n.claim texts).2.2.subscription = n.subscription := rfl
    rw [hsame, ← h.openings, List.countP_cons_of_neg (by simp [MonitorCall.isOpening])]

end Books

namespace Client

variable {c c' : Client} {calls calls' rest : List MonitorCall} {call : MonitorCall}
  {created : List (ConnectionId × SubscriptionId)} {id : ConnectionId} {n : Connection}

/-! ## Calls that hold nothing -/

/-- Only the books and what is left while disconnected depend on the calls. -/
theorem Inv.recall (h : Inv c calls created)
    (hbooks : ∀ id n, Books c.link.server calls id n → Books c.link.server calls' id n)
    (hasking : (∀ call ∈ calls, ∃ texts, call = .asking texts) →
      ∀ call ∈ calls', ∃ texts, call = .asking texts) : Inv c calls' created where
  faultless := h.faultless
  numbered := h.numbered
  ids := h.ids
  valid := h.valid
  connected := fun id n hc => hbooks id n (h.connected id n hc)
  disconnected := fun hc =>
    have ⟨hsubscriptions, hitems, hcalls⟩ := h.disconnected hc
    ⟨hsubscriptions, hitems, hasking hcalls⟩
  earlier := h.earlier
  created_once := h.created_once
  created_known := h.created_known
  created_ready := h.created_ready

theorem Inv.perm (h : Inv c calls created) (hperm : calls.Perm calls') : Inv c calls' created :=
  h.recall (fun _ _ hbooks => hbooks.perm hperm) fun hcalls call hcall =>
    hcalls call (hperm.mem_iff.2 hcall)

theorem Inv.drop (h : Inv c (call :: rest) created) (hclaim : call.claim = [])
    (hentries : call.entries = []) (hopening : call.isOpening = false) : Inv c rest created :=
  h.recall (fun _ _ hbooks => hbooks.drop hclaim hentries hopening) fun hcalls other hother =>
    hcalls other (List.mem_cons_of_mem call hother)

/-- A call comes in. -/
theorem Inv.monitor (h : Inv c calls created) (texts : List String) :
    Inv c (.asking texts :: calls) created :=
  h.recall (fun _ _ hbooks => hbooks.ask texts) fun hcalls =>
    List.forall_mem_cons.2 ⟨⟨texts, rfl⟩, hcalls⟩

/-! ## Changes of the current connection -/

/-- With the same items and numbers a server is in a later state. -/
theorem Inv.later (h : Inv c calls created) {s : Server} (hitems : s.items = c.link.server.items)
    (hnumbered : c.link.server.numbered ≤ s.numbered) : c.link.server.Later s where
  numbered := hnumbered
  items := fun _ hi => Or.inl (hitems ▸ hi)
  ids := hitems ▸ h.ids

/-- **Progress**: what has to be shown of a step that changes the current connection and the server. -/
theorem Inv.progress (h : Inv c calls created) (hc : c.manager.connection? = some (id, n))
    {f : Connection → Connection} (hmanager : c'.manager = c.manager.modify id f)
    (hfaults : c'.link.faults = {}) (hlater : c.link.server.Later c'.link.server)
    (hbooks : Books c'.link.server calls' id (f n))
    (hready : ∀ s, n.subscription = .ready s → (f n).subscription = .ready s) :
    Inv c' calls' created := by
  obtain ⟨hcurrent, hget⟩ := Manager.connection?_eq_some.1 hc
  have hc' : c'.manager.connection? = some (id, f n) := by
    rw [hmanager]
    exact Manager.connection?_modify f hc
  have hcurrent' : c'.manager.current = some id := (Manager.connection?_eq_some.1 hc').1
  refine ⟨hfaults, ?_, hlater.ids, ?_, ?_, ?_, ?_, h.created_once, ?_, ?_⟩
  case refine_1 =>
    intro i hi
    rcases hlater.items i hi with hold | ⟨-, hnew⟩
    · exact Nat.le_trans (h.numbered i hold) hlater.numbered
    · exact hnew
  case refine_2 =>
    intro id' hid'
    obtain rfl : id = id' := Option.some.inj (hcurrent'.symm.trans hid')
    exact ⟨f n, (Manager.connection?_eq_some.1 hc').2⟩
  case refine_3 =>
    intro id' n' hn'
    obtain ⟨rfl, rfl⟩ : id = id' ∧ f n = n' := by
      simpa using hc'.symm.trans hn'
    exact hbooks
  case refine_4 =>
    intro hnone
    exact absurd (hc'.symm.trans hnone) (by simp)
  case refine_5 =>
    -- items that come in have numbers that no earlier connection knows
    intro id' n' hn' hne p hp
    have hother : id ≠ id' := fun heq => hne (heq ▸ hcurrent')
    have hold : c.manager.get? id' = some n' := by
      rw [hmanager, Manager.get?_modify] at hn'
      simpa [hother] using hn'
    have hne' : c.manager.current ≠ some id' := fun heq =>
      hother (Option.some.inj (hcurrent.symm.trans heq))
    obtain ⟨hnumber, hgone⟩ := h.earlier id' n' hold hne' p hp
    refine ⟨Nat.le_trans hnumber hlater.numbered, fun i hi heq => ?_⟩
    rcases hlater.items i hi with hi | ⟨hnew, -⟩
    · exact hgone i hi heq
    · rw [heq] at hnew
      omega
  case refine_6 =>
    intro p hp
    have hlength : c'.manager.connections.length = c.manager.connections.length := by
      rw [hmanager, Manager.modify, List.length_modify]
    rw [hlength]
    exact h.created_known p hp
  case refine_7 =>
    intro id' n' hn' hmem
    obtain ⟨rfl, rfl⟩ : id = id' ∧ f n = n' := by
      simpa using hc'.symm.trans hn'
    obtain ⟨s, hs⟩ := h.created_ready id n hc hmem
    exact ⟨s, hready s hs⟩

end Client

end FieldBridge
