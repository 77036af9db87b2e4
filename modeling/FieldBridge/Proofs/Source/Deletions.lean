/-
  What an unmonitor call asks the server to delete.

  1. **Targets** — a call looks up every text of its own, so an item is asked for as often as texts name its
     node (`count_items_targets`).

  2. **Answers** — a live item is deleted where it is listed first; where it is listed again it is unknown
     already (`statuses_targets`).

  3. **Notices** — so a call that names a monitored node more than once is told of failures, and it is told
     of none otherwise (`deletions`).
-/

import FieldBridge.Proofs.Source.Monitoring

namespace FieldBridge

/-- How many of the texts name a node. -/
def mentions (texts : List String) (node : NodeId) : Nat :=
  texts.countP fun text => NodeId.parse? text = some node

variable {texts : List String}

/-! ## Targets -/

namespace Connection

variable {n : Connection}

/-- The item of the node that a text names. -/
def itemOf? (n : Connection) (text : String) : Option ItemId := do
  let node ← NodeId.parse? text
  let m ← n.monitored.lookup node
  some m.item

theorem items_targets (n : Connection) (texts : List String) :
    (n.targets texts).map (·.2.item) = texts.filterMap n.itemOf? := by
  rw [targets, List.map_filterMap]
  refine List.filterMap_congr fun text _ => ?_
  simp only [itemOf?]
  cases NodeId.parse? text with
  | none => rfl
  | some node => cases hm : n.monitored.lookup node <;> simp [hm]

variable (hnodes : (n.monitored.map (·.1)).Nodup) (hitems : (n.monitored.map (·.2.item)).Nodup)
include hnodes hitems

/-- A text has the item of the node that it names. -/
theorem itemOf?_eq_some_iff {p : NodeId × Monitored} (hp : p ∈ n.monitored) (text : String) :
    n.itemOf? text = some p.2.item ↔ NodeId.parse? text = some p.1 := by
  have hown : n.monitored.lookup p.1 = some p.2 := (lookup_eq_some_iff_mem hnodes).2 hp
  constructor
  · intro hitem
    obtain ⟨node, hnode, hitem⟩ := Option.bind_eq_some_iff.1 hitem
    obtain ⟨m, hm, hitem⟩ := Option.bind_eq_some_iff.1 hitem
    have hmem : (node, m) ∈ n.monitored := (lookup_eq_some_iff_mem hnodes).1 hm
    obtain rfl : (node, m) = p :=
      List.inj_on_of_nodup_map hitems hmem hp (Option.some.inj hitem)
    exact hnode
  · intro hnode
    simp [itemOf?, hnode, hown]

/-- **An item is asked for** as often as texts name its node. -/
theorem count_items_targets {p : NodeId × Monitored} (hp : p ∈ n.monitored) :
    ((n.targets texts).map (·.2.item)).count p.2.item = mentions texts p.1 := by
  rw [items_targets, List.count_filterMap, mentions]
  refine List.countP_congr fun text _ => ?_
  rw [beq_iff_eq, decide_eq_true_iff]
  exact itemOf?_eq_some_iff hnodes hitems hp text

omit hitems in
/-- The items asked for are those of the monitored nodes that are named. -/
theorem mem_items_targets {item : ItemId} : item ∈ (n.targets texts).map (·.2.item)
    ↔ ∃ p ∈ n.monitored, Names texts p.1 ∧ p.2.item = item := by
  rw [List.mem_map]
  constructor
  · rintro ⟨t, ht, rfl⟩
    obtain ⟨hnamed, -⟩ := mem_targets_iff.1 ht
    exact ⟨t, mem_of_mem_targets ht, hnamed, rfl⟩
  · rintro ⟨p, hp, hnamed, rfl⟩
    exact ⟨p, mem_targets_iff.2 ⟨hnamed, (lookup_eq_some_iff_mem hnodes).2 hp⟩, rfl⟩

/-- No item is asked for twice if no monitored node is named twice. -/
theorem nodup_items_targets_iff : ((n.targets texts).map (·.2.item)).Nodup
    ↔ ∀ p ∈ n.monitored, mentions texts p.1 ≤ 1 := by
  rw [List.nodup_iff_count_le_one]
  constructor
  · intro hcount p hp
    rw [← count_items_targets hnodes hitems hp]
    exact hcount p.2.item
  · intro hmentions item
    by_cases hmem : item ∈ (n.targets texts).map (·.2.item)
    · obtain ⟨p, hp, -, rfl⟩ := (mem_items_targets hnodes).1 hmem
      rw [count_items_targets hnodes hitems hp]
      exact hmentions p hp
    · rw [List.count_eq_zero.2 hmem]
      exact Nat.zero_le 1

end Connection

/-! ## Answers -/

/-- What becomes of the items of a list that are deleted one after another: an item that is listed before
already is unknown by then. -/
def deletionStatus (items : List ItemId) (place : Nat) (item : ItemId) : Status :=
  if item ∈ items.take place then .itemIdInvalid else .good

/-- No item is unknown if none is listed twice. -/
theorem deletionStatus_good_iff {items : List ItemId} : items.Nodup
    ↔ ∀ place item, items[place]? = some item → (deletionStatus items place item).isGood = true := by
  have hgood : Status.good.isGood = true := by decide
  have hbad : Status.itemIdInvalid.isGood = false := by decide
  rw [List.nodup_iff_getElem?_ne_getElem?]
  constructor
  · intro hdistinct place item hitem
    have hfirst : item ∉ items.take place := by
      intro hmem
      obtain ⟨before, hbefore, heq⟩ := List.mem_take_iff_getElem.1 hmem
      obtain ⟨hlt, -⟩ := List.getElem?_eq_some_iff.1 hitem
      refine hdistinct before place (Nat.lt_of_lt_of_le hbefore (Nat.min_le_left _ _)) hlt ?_
      rw [hitem, ← heq, List.getElem?_eq_getElem]
    rw [deletionStatus, if_neg hfirst]
    exact hgood
  · intro hall before place hbefore hlt heq
    have hitem : items[place]? = some items[place] := List.getElem?_eq_getElem hlt
    have hmem : items[place] ∈ items.take place := by
      refine List.mem_take_iff_getElem.2 ⟨before, Nat.lt_min.2 ⟨hbefore, by omega⟩, ?_⟩
      rw [hitem] at heq
      exact (List.getElem?_eq_some_iff.1 heq).2
    have hbad' := hall place items[place] hitem
    rw [deletionStatus, if_pos hmem, hbad] at hbad'
    exact absurd hbad' (by decide)

/-- Nothing is told if all answers are good. -/
theorem deletionNotices_eq_nil_iff {targets : List (NodeId × Monitored)} {statuses : List Status}
    (hlength : statuses.length = targets.length) :
    (targets.zip statuses).filterMap (fun p => Connection.deletionNotice p.1 p.2) = []
      ↔ ∀ status ∈ statuses, status.isGood = true := by
  have hnotice : ∀ t status, Connection.deletionNotice t status = none ↔ status.isGood = true := by
    intro t status
    unfold Connection.deletionNotice
    cases status.isGood <;> simp
  rw [List.filterMap_eq_nil_iff]
  simp only [hnotice]
  have hstatuses : (targets.zip statuses).map Prod.snd = statuses :=
    List.map_snd_zip (Nat.le_of_eq hlength)
  constructor
  · intro hall status hstatus
    rw [← hstatuses] at hstatus
    obtain ⟨p, hp, rfl⟩ := List.mem_map.1 hstatus
    exact hall p hp
  · intro hall p hp
    exact hall p.2 (hstatuses ▸ List.mem_map_of_mem hp)

namespace Client

variable {c : Client} {created : List (ConnectionId × SubscriptionId)} {id : ConnectionId}
  {n : Connection}

/-- While no monitor call is in progress, the items of the entries are different and live. -/
theorem Inv.items_live (h : Inv c [] created) (hc : c.manager.connection? = some (id, n)) :
    (n.monitored.map (·.2.item)).Nodup
      ∧ ∀ p ∈ n.monitored, p.2.item ∈ c.link.server.items.map (·.id) := by
  have hentries := ((h.agrees.connected id n hc).entries).map Prod.snd
  simp only [List.map_map] at hentries
  refine ⟨hentries.nodup_iff.2 h.ids, fun p hp => ?_⟩
  exact hentries.mem_iff.1 (List.mem_map_of_mem hp)

/-- **The answers** to what an unmonitor call asks for. -/
theorem Inv.statuses_targets (h : Inv c [] created) (hc : c.manager.connection? = some (id, n))
    (texts : List String) (place : Nat) :
    let asked := (n.targets texts).map (·.2.item)
    (c.link.server.deleteEach asked).1[place]? = asked[place]?.map (deletionStatus asked place) := by
  intro asked
  obtain ⟨-, hlive⟩ := h.items_live hc
  rw [Server.getElem?_deleteEach]
  cases hitem : asked[place]? with
  | none => rfl
  | some item =>
    obtain ⟨t, ht, hown⟩ := List.mem_map.1 (List.mem_of_getElem? hitem)
    have hitemLive : item ∈ c.link.server.items.map (·.id) :=
      hown ▸ hlive t (Connection.mem_of_mem_targets ht)
    simp only [Option.map_some, deletionStatus, hitemLive, true_and, ite_not]

/-- **What is told** and what the link is left with, as the answers to the deletions have it. -/
theorem Inv.unmonitor_eq (h : Inv c [] created) (hc : c.manager.connection? = some (id, n))
    (texts : List String) :
    let targets := n.targets texts
    let asked := targets.map (·.2.item)
    let statuses := (c.link.server.deleteEach asked).1
    c.link.deleteItems asked = (.ok statuses, (c.unmonitor texts).2.link)
      ∧ (c.unmonitor texts).1
        = (targets.zip statuses).filterMap fun p => Connection.deletionNotice p.1 p.2 := by
  intro targets asked statuses
  have hopen : c.link.deleteItems asked = (.ok statuses, (c.without asked).link) := by
    rcases Link.deleteItems_faultless h.faultless asked with ⟨hclosed, -⟩ | ⟨-, hanswer⟩
    · exact absurd (hclosed.symm.trans (h.connected id n hc).isOpen) (by decide)
    · exact hanswer
  rw [hopen]
  rcases h.unmonitor_cases hc texts with ⟨hempty, hend⟩ | ⟨-, hend⟩
  · -- with no targets nothing is asked for
    have hnone : asked = [] := congrArg (List.map (·.2.item)) hempty
    have hsame : c.without asked = c := by simp [Client.without, hnone]
    have htargets : targets = [] := hempty
    rw [hend, hsame, htargets]
    exact ⟨rfl, rfl⟩
  · rw [hend]
    exact ⟨rfl, Connection.notices_erase _ _ _⟩

end Client

/-! ## Notices -/

namespace Traffic

/-- **Deletions**: an unmonitor call that comes in while the client is connected and no call is in progress
asks for the items of the monitored nodes that its texts name, for each as often as they name its node.  The
first time an item is deleted, any other time it is unknown, and that is told.  So nothing is told exactly
if no monitored node is named more than once. -/
theorem deletions (endpoints : List Endpoint) (moves : List Move) :
    let t := (start endpoints).travel moves
    t.monitors = [] → ∀ id n, t.client.manager.connection? = some (id, n) → ∀ texts,
      let targets := n.targets texts
      let asked := targets.map (·.2.item)
      let outcome := t.client.unmonitor texts
      (∀ item, item ∈ asked ↔ ∃ p ∈ n.monitored, Names texts p.1 ∧ p.2.item = item)
      ∧ (∀ p ∈ n.monitored, asked.count p.2.item = mentions texts p.1)
      ∧ (∃ statuses, t.client.link.deleteItems asked = (.ok statuses, outcome.2.link)
        ∧ (∀ place : Nat, statuses[place]? = asked[place]?.map (deletionStatus asked place))
        ∧ outcome.1 = (targets.zip statuses).filterMap fun p => Connection.deletionNotice p.1 p.2)
      ∧ (outcome.1 = [] ↔ ∀ p ∈ n.monitored, mentions texts p.1 ≤ 1) := by
  intro t hidle id n hc texts targets asked outcome
  have h : t.client.Inv [] t.created :=
    Inv.of_monitors (inv_travel (inv_start endpoints) moves) hidle
  have hnodes := (h.agrees.connected id n hc).nodes
  obtain ⟨hitems, -⟩ := h.items_live hc
  obtain ⟨hanswer, hnotices⟩ := h.unmonitor_eq hc texts
  have hstatuses := h.statuses_targets hc texts
  refine ⟨fun item => Connection.mem_items_targets hnodes,
    fun p hp => Connection.count_items_targets hnodes hitems hp,
    ⟨_, hanswer, hstatuses, hnotices⟩, ?_⟩
  have hlength : (t.client.link.server.deleteEach asked).1.length = targets.length := by
    rw [Server.length_deleteEach, List.length_map]
  rw [← Connection.nodup_items_targets_iff hnodes hitems, deletionStatus_good_iff]
  rw [show outcome.1 = _ from hnotices, deletionNotices_eq_nil_iff hlength]
  constructor
  · intro hgood place item hitem
    refine hgood _ (List.mem_of_getElem? (i := place) ?_)
    rw [hstatuses place, show asked[place]? = some item from hitem]
    rfl
  · intro hgood status hstatus
    obtain ⟨place, hplace⟩ := List.mem_iff_getElem?.1 hstatus
    rw [hstatuses place] at hplace
    obtain ⟨item, hitem, rfl⟩ := Option.map_eq_some_iff.1 hplace
    exact hgood place item hitem

/-- A client that monitors one node. -/
def singleExample : List Move :=
  [.event (.connect "opc.tcp://plc:4840"), .event (.monitor ["ns=2;s=A"]), .event (.monitorOn 0),
    .event (.monitorOn 0), .event (.monitorOn 0)]

/-- Named once, the node goes without a word. -/
theorem deletions_singleExample :
    let t := (start [⟨"opc.tcp://mock:4840", .plain⟩]).travel singleExample
    t.monitors = [] ∧ t.client.isMonitored ⟨2, .string "A"⟩ = true
      ∧ (t.client.unmonitor ["i=1", "ns=2;s=A"]).1 = [] := by
  refine ⟨rfl, rfl, ?_⟩
  obtain ⟨-, -, -, hquiet⟩ := deletions [⟨"opc.tcp://mock:4840", .plain⟩] singleExample rfl ⟨0⟩ _ rfl
    ["i=1", "ns=2;s=A"]
  refine hquiet.2 fun p hp => ?_
  obtain rfl := List.mem_singleton.1 hp
  exact Nat.le_refl 1

/-- Named twice, its item is asked for twice, and the second time that is told as a failure. -/
theorem unmonitor_twiceExample :
    let t := (start [⟨"opc.tcp://mock:4840", .plain⟩]).travel singleExample
    t.monitors = [] ∧ t.client.isMonitored ⟨2, .string "A"⟩ = true
      ∧ (t.client.unmonitor ["ns=2;s=A", "ns=2;s=A"]).1
        = [.deletionRejected "ns=2;s=A" "0x80420000"] :=
  ⟨rfl, rfl, rfl⟩

end Traffic

end FieldBridge
