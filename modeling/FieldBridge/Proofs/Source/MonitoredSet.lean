/-
  Monitoring and unmonitoring as operations on a set.

  Monitor calls take lists of texts, with repetitions, several spellings of a node and texts that name
  none, and ask for the nodes in an order of their own.  None of this shows in what is monitored:

  1. **Monitoring** (`Rests.gains`) — calls that come in one after another add the nodes that are
     named, not monitored and not refused, each under the first text of all that names it.

  2. **Unmonitoring** (`Rests.unmonitored_calls`) — exactly the entries of the nodes named go.

  3. **Sets** (`set_operations`) — so after any calls the monitored nodes are the old ones and those
     named, or the old ones without those named, and the live items are theirs.  The order of the texts,
     repetitions and how they are divided among calls make no difference.
-/

import FieldBridge.Proofs.Source.Monitoring

namespace FieldBridge

variable {texts more : List String} {entries added later : List (NodeId × Monitored)}
  {refused : List NodeId}

/-! ## What is added -/

/-- No texts add nothing. -/
theorem adds_nil : Adds [] entries refused [] := by
  intro node text
  simp [firstText?]

/-- What texts add and then others add is what all of them add. -/
theorem Adds.append (h : Adds texts entries refused added)
    (hmore : Adds more (entries ++ added) refused later) :
    Adds (texts ++ more) entries refused (added ++ later) := by
  intro node text
  rw [firstText?_append]
  by_cases hfree : node ∉ entries.map (·.1) ∧ node ∉ refused
  · obtain ⟨hnew, haccepted⟩ := hfree
    have hfirst : ∀ text, (∃ m, (node, m) ∈ added ∧ m.text = text) ↔ firstText? texts node = some text := by
      intro text
      rw [h node text]
      simp only [hnew, haccepted, not_false_iff, true_and]
    have hlater : (∃ m, (node, m) ∈ later ∧ m.text = text)
        ↔ node ∉ added.map (·.1) ∧ firstText? more node = some text := by
      rw [hmore node text, List.map_append, List.mem_append, not_or]
      simp only [hnew, haccepted, not_false_iff, true_and]
    have hadded : node ∈ added.map (·.1) ↔ ∃ text, firstText? texts node = some text := by
      constructor
      · intro hmem
        obtain ⟨p, hp, rfl⟩ := List.mem_map.1 hmem
        exact ⟨p.2.text, (hfirst p.2.text).1 ⟨p.2, hp, rfl⟩⟩
      · rintro ⟨text, htext⟩
        obtain ⟨m, hm, -⟩ := (hfirst text).2 htext
        exact List.mem_map_of_mem hm
    simp only [List.mem_append, or_and_right, exists_or, hfirst, hlater, hadded, hnew, haccepted,
      not_false_iff, true_and]
    cases firstText? texts node <;> simp
  · have hnone : ¬ (node ∉ entries.map (·.1) ∧ node ∉ refused
        ∧ (firstText? texts node).or (firstText? more node) = some text) :=
      fun hall => hfree ⟨hall.1, hall.2.1⟩
    refine iff_of_false ?_ hnone
    rintro ⟨m, hm, -⟩
    rcases List.mem_append.1 hm with hm | hm
    · obtain ⟨hnew, haccepted, -⟩ := (h node m.text).1 ⟨m, hm, rfl⟩
      exact hfree ⟨hnew, haccepted⟩
    · obtain ⟨hnew, haccepted, -⟩ := (hmore node m.text).1 ⟨m, hm, rfl⟩
      rw [List.map_append, List.mem_append, not_or] at hnew
      exact hfree ⟨hnew.1, haccepted⟩

/-- The text under which a node is added. -/
theorem Adds.lookup (h : Adds texts entries refused added) (hnodup : (added.map (·.1)).Nodup)
    {node : NodeId} (hnew : node ∉ entries.map (·.1)) :
    (added.lookup node).map (·.text) = if node ∈ refused then none else firstText? texts node := by
  refine Option.ext fun text => ?_
  rw [Option.map_eq_some_iff]
  simp only [lookup_eq_some_iff_mem hnodup]
  rw [h node text]
  by_cases hrefused : node ∈ refused
  · simp [hrefused]
  · simp [hrefused, hnew]

namespace Traffic

variable {t t' : Traffic} {id : ConnectionId} {n : Connection}

/-! ## Calls one after another -/

/-- Monitor calls on lists of texts, each of which comes in when the one before it has ended. -/
inductive Monitors : Traffic → List (List String) → Traffic → Prop where
  | done (t : Traffic) : Monitors t [] t
  | call {t t' : Traffic} {texts : List String} {rest : List (List String)} {pace : List Move}
    (hpace : ∀ m ∈ pace, Move.Paces m)
    (hend : (t.travel (.event (.monitor texts) :: pace)).monitors = [])
    (hrest : Monitors (t.travel (.event (.monitor texts) :: pace)) rest t') :
    Monitors t (texts :: rest) t'

/-- An unmonitor call comes in and goes on to its end. -/
def unmonitored (t : Traffic) (texts : List String) : Traffic :=
  (t.step (.unmonitor texts)).step (.unmonitorOn t.unmonitors.length)

/-- A connection is current, and no monitor call is in progress over it. -/
structure Rests (id : ConnectionId) (refused : List NodeId) (t : Traffic) (n : Connection) : Prop where
  inv : t.Inv
  monitors : t.monitors = []
  connection : t.client.manager.connection? = some (id, n)
  rejected : t.client.link.server.rejected = refused

/-- The invariant while no monitor call is in progress. -/
theorem Rests.books (h : t.Rests id refused n) : t.client.Inv [] t.created :=
  h.inv.of_monitors h.monitors

/-- No node is monitored twice. -/
theorem Rests.nodup (h : t.Rests id refused n) : (n.monitored.map (·.1)).Nodup := by
  simpa using (h.books.connected id n h.connection).nodup

/-- A call that comes in is alone. -/
theorem Rests.monitor (h : t.Rests id refused n) (texts : List String) :
    (t.step (.monitor texts)).Serving id texts n.monitored refused := by
  refine ⟨inv_step h.inv _, some (.asking texts), ?_, h.rejected, n, h.connection, rfl, rfl⟩
  simp [Traffic.step, h.monitors]

/-- **One call** adds what it has to. -/
theorem Rests.call (h : t.Rests id refused n) {pace : List Move} (hpace : ∀ m ∈ pace, Move.Paces m)
    (hend : (t.travel (.event (.monitor texts) :: pace)).monitors = []) :
    ∃ n' added, (t.travel (.event (.monitor texts) :: pace)).Rests id refused n'
      ∧ n'.monitored = n.monitored ++ added ∧ Adds texts n.monitored refused added := by
  obtain ⟨hinv, call?, hcalls, hlone⟩ := (h.monitor texts).travel hpace
  obtain rfl : call? = none := by
    have heq : call?.toList = [] := hcalls.symm.trans hend
    simpa using heq
  obtain ⟨n', hc, added, hadded, hadds⟩ := hlone.connection
  exact ⟨n', added, ⟨hinv, hend, hc, hlone.rejected⟩, hadded, hadds⟩

/-- **Monitoring**: calls one after another add what all their texts together have to add. -/
theorem Rests.monitors_calls {lists : List (List String)} (hcalls : t.Monitors lists t')
    (h : t.Rests id refused n) : ∃ n' added, t'.Rests id refused n'
      ∧ n'.monitored = n.monitored ++ added ∧ Adds lists.flatten n.monitored refused added := by
  induction hcalls generalizing n with
  | done t => exact ⟨n, [], h, (List.append_nil _).symm, adds_nil⟩
  | call hpace hend hrest ih =>
    obtain ⟨n₁, added, h₁, hmonitored, hadds⟩ := h.call hpace hend
    obtain ⟨n₂, later, h₂, hmonitored₂, hlater⟩ := ih h₁
    rw [hmonitored] at hlater hmonitored₂
    refine ⟨n₂, added ++ later, h₂, ?_, hadds.append hlater⟩
    rw [hmonitored₂, List.append_assoc]

/-- Monitor calls end, however many come in one after another. -/
theorem Rests.exists_monitors (h : t.Rests id refused n) (lists : List (List String)) :
    ∃ t', t.Monitors lists t' := by
  induction lists generalizing t n with
  | nil => exact ⟨t, .done t⟩
  | cons texts rest ih =>
    obtain ⟨pace, hpace, hquiet⟩ := (h.monitor texts).ends
    have hend : (t.travel (.event (.monitor texts) :: pace)).monitors = [] := hquiet
    obtain ⟨n₁, -, h₁, -⟩ := h.call hpace hend
    obtain ⟨t', hrest⟩ := ih h₁
    exact ⟨t', .call hpace hend hrest⟩

/-- An unmonitor call that comes in and goes on to its end is one that is made in one go. -/
theorem unmonitored_eq (t : Traffic) (texts : List String) :
    t.unmonitored texts = { t with client := (t.client.unmonitor texts).2 } := by
  cases hcall : t.client.beginUnmonitor texts with
  | none => simp [Traffic.unmonitored, Traffic.step, Client.unmonitor, hcall]
  | some call =>
    have herase : (t.unmonitors ++ [call]).eraseIdx t.unmonitors.length = t.unmonitors := by
      rw [List.eraseIdx_append_of_length_le (Nat.le_refl _)]
      simp
    simp [Traffic.unmonitored, Traffic.step, Client.unmonitor, hcall, herase]

/-- **Unmonitoring** takes out exactly the entries of the nodes named. -/
theorem Rests.unmonitored (h : t.Rests id refused n) (texts : List String) :
    (t.unmonitored texts).Rests id refused
      { n with monitored := n.monitored.filter fun p => ¬ Names texts p.1 } := by
  have hinv : (t.unmonitored texts).Inv := inv_step (inv_step h.inv _) _
  rw [← n.filter_targets texts]
  rw [unmonitored_eq] at hinv ⊢
  refine ⟨hinv, h.monitors, ?_, ?_⟩
  · rcases h.books.unmonitor_cases h.connection texts with ⟨hempty, hend⟩ | ⟨-, hend⟩
    · rw [hend, hempty]
      simpa using h.connection
    · rw [hend]
      exact Manager.connection?_modify _ h.connection
  · rcases h.books.unmonitor_cases h.connection texts with ⟨-, hend⟩ | ⟨-, hend⟩
    · rw [hend]
      exact h.rejected
    · rw [hend]
      exact h.rejected

/-- Unmonitor calls one after another take out the entries of all the nodes named. -/
theorem Rests.unmonitored_calls (h : t.Rests id refused n) (lists : List (List String)) :
    (lists.foldl Traffic.unmonitored t).Rests id refused
      { n with monitored := n.monitored.filter fun p => ¬ Names lists.flatten p.1 } := by
  induction lists generalizing t n with
  | nil =>
    have hall : n.monitored.filter (fun p => ¬ Names [] p.1) = n.monitored :=
      List.filter_eq_self.2 fun p _ => by simp
    simp only [List.flatten_nil, hall]
    exact h
  | cons texts rest ih =>
    have hrest := ih (h.unmonitored texts)
    have hboth : (n.monitored.filter fun p => ¬ Names texts p.1).filter
          (fun p => ¬ Names rest.flatten p.1)
        = n.monitored.filter fun p => ¬ Names (texts :: rest).flatten p.1 := by
      rw [List.filter_filter]
      refine List.filter_congr fun p _ => ?_
      simp [not_or, Bool.and_comm]
    rw [hboth] at hrest
    exact hrest

end Traffic

/-! ## Sets -/

/-- The live items of a server, each with its node. -/
def Server.live (s : Server) : List (NodeId × ItemId) := s.items.map fun i => (i.node, i.id)

/-- A connection has come to monitor what texts name and the server does not refuse. -/
structure Connection.Gains (texts : List String) (refused : List NodeId) (n n' : Connection) : Prop where
  /-- What was monitored is as it was. -/
  kept : n.monitored <+: n'.monitored
  /-- What is new goes by the first text that names it. -/
  text : ∀ node, n'.textOf? node
    = (n.textOf? node).or (if node ∈ refused then none else firstText? texts node)
  nodes : ∀ node, node ∈ n'.monitored.map (·.1)
    ↔ node ∈ n.monitored.map (·.1) ∨ node ∉ refused ∧ Names texts node

/-- Entries that are added are a gain. -/
theorem Connection.gains {n n' : Connection} (hmonitored : n'.monitored = n.monitored ++ added)
    (hadds : Adds texts n.monitored refused added) (hnodup : (n'.monitored.map (·.1)).Nodup) :
    n.Gains texts refused n' := by
  have htext : ∀ node, n'.textOf? node
      = (n.textOf? node).or (if node ∈ refused then none else firstText? texts node) := by
    intro node
    rw [hmonitored, List.map_append, List.nodup_append] at hnodup
    have hlookup : n'.textOf? node = (n.textOf? node).or ((added.lookup node).map (·.text)) := by
      rw [textOf?, hmonitored, List.lookup_append, Option.map_or]
      rfl
    rw [hlookup]
    cases hold : n.textOf? node with
    | some text => rfl
    | none => rw [Option.none_or, Option.none_or, hadds.lookup hnodup.2.1 (textOf?_eq_none_iff.1 hold)]
  refine ⟨hmonitored ▸ List.prefix_append _ _, htext, fun node => ?_⟩
  rw [← isSome_textOf?, ← isSome_textOf?, htext node, Option.isSome_or, names_iff_isSome]
  by_cases hrefused : node ∈ refused
  · simp [hrefused]
  · simp [hrefused]

/-- A node that is monitored is an entry of the current connection. -/
theorem Client.isMonitored_iff {c : Client} {id : ConnectionId} {n : Connection}
    (hc : c.manager.connection? = some (id, n)) (node : NodeId) :
    c.isMonitored node = true ↔ node ∈ n.monitored.map (·.1) := by
  rw [← Connection.isSome_textOf?, Connection.textOf?, Option.isSome_map, isMonitored, hc]

namespace Traffic

variable {t t' : Traffic} {id : ConnectionId} {n n' : Connection}

/-- The live items are those of the entries. -/
theorem Rests.mem_live (h : t.Rests id refused n) (p : NodeId × ItemId) :
    p ∈ t.client.link.server.live ↔ ∃ q ∈ n.monitored, (q.1, q.2.item) = p := by
  have hperm := (h.books.agrees.connected id n h.connection).entries
  exact hperm.mem_iff.symm.trans List.mem_map

/-- **Monitoring** adds to the set of the monitored nodes and to the live items. -/
theorem Rests.gains {lists : List (List String)} (h : t.Rests id refused n)
    (hcalls : t.Monitors lists t') : ∃ n', t'.Rests id refused n' ∧ n.Gains lists.flatten refused n'
      ∧ t.client.link.server.live ⊆ t'.client.link.server.live := by
  obtain ⟨n', added, h', hmonitored, hadds⟩ := h.monitors_calls hcalls
  refine ⟨n', h', Connection.gains hmonitored hadds h'.nodup, fun p hp => ?_⟩
  obtain ⟨q, hq, rfl⟩ := (h.mem_live p).1 hp
  exact (h'.mem_live _).2 ⟨q, hmonitored ▸ List.mem_append_left _ hq, rfl⟩

/-- **Unmonitoring** takes from both. -/
theorem Rests.loses (h : t.Rests id refused n) (lists : List (List String)) (p : NodeId × ItemId) :
    p ∈ (lists.foldl Traffic.unmonitored t).client.link.server.live
      ↔ p ∈ t.client.link.server.live ∧ ¬ Names lists.flatten p.1 := by
  rw [(h.unmonitored_calls lists).mem_live, h.mem_live]
  constructor
  · rintro ⟨q, hq, rfl⟩
    obtain ⟨hold, hnamed⟩ := List.mem_filter.1 hq
    exact ⟨⟨q, hold, rfl⟩, of_decide_eq_true hnamed⟩
  · rintro ⟨⟨q, hold, rfl⟩, hnamed⟩
    exact ⟨q, List.mem_filter.2 ⟨hold, decide_eq_true hnamed⟩, rfl⟩

/-- **Set operations**: while a client is connected and no monitor call is in progress, monitor calls that
come in one after another end, and they add to the monitored nodes those that their texts name and the
server does not refuse, each under the first text that names it; unmonitor calls take out the nodes that
their texts name.  The live items change with them.  So which nodes are monitored in the end depends on the
set of the nodes named alone, and on nothing else of the texts, of the calls among which they are divided
or of the order in which a call asks for its nodes. -/
theorem set_operations (endpoints : List Endpoint) (moves : List Move) :
    let t := (start endpoints).travel moves
    let refused := t.client.link.server.rejected
    t.monitors = [] → ∀ id n, t.client.manager.connection? = some (id, n) →
      (∀ lists : List (List String), ∃ t', t.Monitors lists t')
      ∧ (∀ (lists : List (List String)) t', t.Monitors lists t' → t'.client.Agrees
        ∧ (∃ n', t'.client.manager.connection? = some (id, n') ∧ n.Gains lists.flatten refused n')
        ∧ t.client.link.server.live ⊆ t'.client.link.server.live)
      ∧ (∀ lists : List (List String), let t' := lists.foldl unmonitored t
        t'.client.Agrees
        ∧ (∃ n', t'.client.manager.connection? = some (id, n')
          ∧ n'.monitored = n.monitored.filter fun p => ¬ Names lists.flatten p.1)
        ∧ ∀ p, p ∈ t'.client.link.server.live
          ↔ p ∈ t.client.link.server.live ∧ ¬ Names lists.flatten p.1)
      ∧ ∀ lists others : List (List String),
        (∀ node, Names lists.flatten node ↔ Names others.flatten node) → ∀ node,
        (∀ t' t'', t.Monitors lists t' → t.Monitors others t'' →
          t'.client.isMonitored node = t''.client.isMonitored node)
        ∧ (lists.foldl unmonitored t).client.isMonitored node
          = (others.foldl unmonitored t).client.isMonitored node := by
  intro t refused hidle id n hc
  have h : t.Rests id refused n := ⟨inv_travel (inv_start endpoints) moves, hidle, hc, rfl⟩
  refine ⟨h.exists_monitors, fun lists t' hcalls => ?_, fun lists => ?_, ?_⟩
  · obtain ⟨n', h', hgains, hlive⟩ := h.gains hcalls
    exact ⟨h'.books.agrees, ⟨n', h'.connection, hgains⟩, hlive⟩
  · have h' := h.unmonitored_calls lists
    exact ⟨h'.books.agrees, ⟨_, h'.connection, rfl⟩, h.loses lists⟩
  · intro lists others hsame node
    refine ⟨fun t' t'' hcalls hothers => ?_, ?_⟩
    · obtain ⟨n', h', hgains, -⟩ := h.gains hcalls
      obtain ⟨n'', h'', hgains', -⟩ := h.gains hothers
      rw [Bool.eq_iff_iff, Client.isMonitored_iff h'.connection, Client.isMonitored_iff h''.connection,
        hgains.nodes, hgains'.nodes, hsame]
    · rw [Bool.eq_iff_iff, Client.isMonitored_iff (h.unmonitored_calls lists).connection,
        Client.isMonitored_iff (h.unmonitored_calls others).connection]
      simp only [hsame]

/-- A client that monitors one node, of a server that refuses another. -/
def refusalExample : List Move :=
  [.event (.connect "opc.tcp://mock:4840"), .event (.reject ⟨0, .numeric 3⟩), .event (.monitor ["i=1"]),
    .event (.monitorOn 0), .event (.monitorOn 0), .event (.monitorOn 0)]

theorem set_operations_refusalExample :
    let t := (start [⟨"opc.tcp://mock:4840", .plain⟩]).travel refusalExample
    t.monitors = [] ∧ t.client.isMonitored ⟨0, .numeric 1⟩ = true
    ∧ ∃ id n, t.client.manager.connection? = some (id, n)
      ∧ ∃ t', t.Monitors [["i=3", "ns=0;i=2", "i"], ["i=2", "i=1"]] t'
        ∧ ∃ n', t'.client.manager.connection? = some (id, n')
          ∧ n'.textOf? ⟨0, .numeric 1⟩ = some "i=1" ∧ n'.textOf? ⟨0, .numeric 2⟩ = some "ns=0;i=2"
          ∧ n'.textOf? ⟨0, .numeric 3⟩ = none := by
  refine ⟨rfl, rfl, ⟨0⟩, _, rfl, ?_⟩
  obtain ⟨hends, hgains, -⟩ :=
    set_operations [⟨"opc.tcp://mock:4840", .plain⟩] refusalExample rfl ⟨0⟩ _ rfl
  obtain ⟨t', hcalls⟩ := hends [["i=3", "ns=0;i=2", "i"], ["i=2", "i=1"]]
  obtain ⟨-, ⟨n', hc, hgain⟩, -⟩ := hgains _ t' hcalls
  exact ⟨t', hcalls, n', hc, hgain.text _, hgain.text _, hgain.text _⟩

end Traffic

end FieldBridge
