/-
  Traffic over a client.

  1. **Events** — everything that can happen to a client whose link has no faults: connecting and
     disconnecting, which wait until no monitor call is in progress; monitor and unmonitor calls, which
     begin at any time and go on, one wait at a time, in any order; changes of the server's settings; and
     time.

  2. **Runs** — every event keeps the invariant (`inv_step`), hence every run from a new client does
     (`inv_run`), whatever endpoints the server offers.

  3. **Agreement** — once no monitor call is in progress, what is monitored is exactly what is live on the
     server, on the one subscription of the connection; nothing is live while disconnected; and a change
     of a node's value is told once if the node is monitored, else not at all (`agrees_run`).
-/

import FieldBridge.Proofs.Source.Calls

namespace FieldBridge

/-! ## Events -/

/-- A client, the calls in progress over it and the time. -/
structure Traffic where
  client : Client
  now : Nat := 0
  monitors : List MonitorCall := []
  unmonitors : List UnmonitorCall := []
  /-- The subscriptions created, each with the connection of the call that created it.  Nothing reads it. -/
  created : List (ConnectionId × SubscriptionId) := []

/-- What can happen. -/
inductive Traffic.Event where
  | connect (url : String)
  | disconnect
  /-- A monitor call comes in. -/
  | monitor (texts : List String)
  /-- The monitor call at this place goes on to where it waits next. -/
  | monitorOn (place : Nat)
  /-- An unmonitor call comes in. -/
  | unmonitor (texts : List String)
  /-- The unmonitor call at this place goes on to its end. -/
  | unmonitorOn (place : Nat)
  | reject (node : NodeId)
  | allow (node : NodeId)
  | delaySubscriptions (ms : Nat)
  | failConnect (fail : Bool)
  | failDiscovery (fail : Bool)
  | pass (ms : Nat)

namespace Traffic

/-- Change the server's settings. -/
def set (t : Traffic) (f : Server → Server) : Traffic :=
  { t with client := { t.client with link := { t.client.link with server := f t.client.link.server } } }

/-- A monitor call goes on. -/
def monitorOn (t : Traffic) (place : Nat) (call : MonitorCall) : Traffic :=
  let (_, next, client) := t.client.step t.now call
  { t with
    client
    monitors := t.monitors.take place ++ next.toList ++ t.monitors.drop (place + 1)
    created := t.created ++ call.credit t.client.link.server client.link.server }

/-- One event.  Connecting and disconnecting do not happen while a monitor call is in progress. -/
def step (t : Traffic) : Event → Traffic
  | .connect url =>
    if t.monitors.isEmpty then { t with client := (t.client.connect url).2.2 } else t
  | .disconnect => if t.monitors.isEmpty then { t with client := t.client.disconnect.2 } else t
  | .monitor texts => { t with monitors := t.monitors ++ [.asking texts] }
  | .monitorOn place => match t.monitors[place]? with
    | some call => t.monitorOn place call
    | none => t
  | .unmonitor texts =>
    { t with unmonitors := t.unmonitors ++ (t.client.beginUnmonitor texts).toList }
  | .unmonitorOn place => match t.unmonitors[place]? with
    | some call => { t with
      client := (t.client.finishUnmonitor call).2
      unmonitors := t.unmonitors.eraseIdx place }
    | none => t
  | .reject node => t.set (·.reject node)
  | .allow node => t.set (·.allow node)
  | .delaySubscriptions ms => t.set fun s => { s with subscriptionDelay := ms }
  | .failConnect fail => t.set fun s => { s with failConnect := fail }
  | .failDiscovery fail => t.set fun s => { s with failDiscovery := fail }
  | .pass ms => { t with now := t.now + ms }

/-- A run. -/
def run (t : Traffic) (events : List Event) : Traffic := events.foldl step t

/-- A new client of a server that offers endpoints. -/
def start (endpoints : List Endpoint) : Traffic where
  client := { link := { server := { endpoints } } }

end Traffic

/-! ## Connecting -/

namespace Client

variable {c c' : Client} {calls : List MonitorCall} {created : List (ConnectionId × SubscriptionId)}

/-- What the invariant says of a link depends only on its faults and on a part of the server. -/
structure SameBooks (l l' : Link) : Prop where
  faults : l'.faults = l.faults
  subscriptions : l'.server.subscriptions = l.server.subscriptions
  items : l'.server.items = l.server.items
  numbered : l'.server.numbered = l.server.numbered

/-- The rest of the server does not matter, except that its session is open while connected. -/
theorem Inv.set (h : Inv c calls created) {l : Link} (hsame : SameBooks c.link l)
    (hclosed : c.manager.current ≠ none → l.server.closed = c.link.server.closed) :
    Inv { c with link := l } calls created := by
  obtain ⟨hfaults, hsubscriptions, hitems, hnumbered⟩ := hsame
  refine { h with faultless := hfaults.trans h.faultless, numbered := ?_, ids := ?_,
                  connected := ?_, disconnected := ?_, earlier := ?_ }
  · rw [hitems, hnumbered]
    exact h.numbered
  · rw [hitems]
    exact h.ids
  · intro id n hc
    have hbooks := h.connected id n hc
    have hcurrent : c.manager.current ≠ none := by
      rw [(Manager.connection?_eq_some.1 hc).1]
      simp
    exact { hbooks with
      isOpen := (hclosed hcurrent).trans hbooks.isOpen
      holds := hbooks.holds.subset hsubscriptions fun i hi => hitems ▸ hi
      entries := by
        rw [hitems]
        exact hbooks.entries }
  · rw [hsubscriptions, hitems]
    exact h.disconnected
  · rw [hitems, hnumbered]
    exact h.earlier

/-- Deleting the subscriptions of a connection and closing its session leave nothing. -/
theorem closed_link {l : Link} {subscription : SharedSubscription} (hfaults : l.faults = {})
    (hopen : l.server.closed = false) (hholds : subscription.Holds l.server) (session : ConnectionId) :
    let after := (Manager.deleteEach Link.transport session l l.server.subscriptions).2.close.2
    after.faults = {} ∧ after.server.subscriptions = [] ∧ after.server.items = []
      ∧ after.server.numbered = l.server.numbered := by
  cases subscription with
  | absent | opening =>
    obtain ⟨hsubscriptions, hitems⟩ := hholds
    simp [hsubscriptions, hitems, Manager.deleteEach, Link.close, Server.close, hfaults]
  | ready id =>
    obtain ⟨hsubscriptions, hplaced⟩ := hholds
    simp only [hsubscriptions, Manager.deleteEach, Link.transport, Link.deleteSubscription, hfaults,
      Server.deleteSubscription, hopen, Link.close, Server.close]
    simpa using hplaced

/-- The current connection is one that there is. -/
theorem Inv.current_eq_none (h : Inv c calls created) (hc : c.manager.connection? = none) :
    c.manager.current = none := by
  cases hcurrent : c.manager.current with
  | none => rfl
  | some id =>
    obtain ⟨n, hn⟩ := h.valid id hcurrent
    exact absurd (Manager.connection?_eq_some.2 ⟨hcurrent, hn⟩) (by simp [hc])

/-- Closing while disconnected does nothing. -/
theorem closeCurrent_of_none (hc : c.manager.connection? = none) :
    c.manager.closeCurrent Link.transport c.link = ([], c.manager, c.link) := by
  simp [Manager.closeCurrent, hc]

/-- Closing forgets the connection, deletes its subscriptions and closes its session. -/
theorem closeCurrent_of_some {id : ConnectionId} {n : Connection}
    (hc : c.manager.connection? = some (id, n)) :
    (c.manager.closeCurrent Link.transport c.link).2 = ({ c.manager with current := none },
      (Manager.deleteEach Link.transport id c.link c.link.server.subscriptions).2.close.2) := by
  simp only [Manager.closeCurrent, hc]
  rfl

/-- **Closing** keeps the invariant and leaves the client disconnected, with nothing on the server. -/
theorem Inv.closeCurrent (h : Inv c [] created) :
    Inv { c with
      manager := (c.manager.closeCurrent Link.transport c.link).2.1
      link := (c.manager.closeCurrent Link.transport c.link).2.2 } [] created
    ∧ (c.manager.closeCurrent Link.transport c.link).2.1.current = none := by
  cases hc : c.manager.connection? with
  | none =>
    rw [closeCurrent_of_none hc]
    exact ⟨h, h.current_eq_none hc⟩
  | some found =>
    obtain ⟨id, n⟩ := found
    have hbooks := h.connected id n hc
    obtain ⟨hfaults, hsubscriptions, hitems, hnumbered⟩ :=
      closed_link h.faultless hbooks.isOpen hbooks.holds id
    obtain ⟨hcurrent, hget⟩ := Manager.connection?_eq_some.1 hc
    rw [closeCurrent_of_some hc]
    refine ⟨?_, rfl⟩
    refine { h with faultless := hfaults, numbered := ?_, ids := ?_, valid := ?_, connected := ?_,
                    disconnected := ?_, earlier := ?_, created_ready := ?_ }
    · rw [hitems]
      exact fun i hi => absurd hi List.not_mem_nil
    · rw [hitems]
      exact List.nodup_nil
    · exact fun id hid => absurd hid (by simp)
    · intro id n hn
      exact absurd (Manager.connection?_eq_some.1 hn).1 (by simp)
    · exact fun _ => ⟨hsubscriptions, hitems, fun call hcall => absurd hcall List.not_mem_nil⟩
    · intro id' n' hn' _ p hp
      rw [hitems, hnumbered]
      refine ⟨?_, fun i hi => absurd hi List.not_mem_nil⟩
      by_cases hid : c.manager.current = some id'
      · -- what the connection just closed lists was live until now
        obtain rfl : id = id' := Option.some.inj (hcurrent.symm.trans hid)
        obtain rfl : n = n' := Option.some.inj (hget.symm.trans hn')
        obtain ⟨i, hi, rfl⟩ :=
          List.mem_map.1 (hbooks.entries.mem_iff.1 (List.mem_append_left _ hp))
        exact h.numbered i hi
      · exact (h.earlier id' n' hn' hid p hp).1
    · intro id n hn
      exact absurd (Manager.connection?_eq_some.1 hn).1 (by simp)

/-- A connection that is just opened has nothing on the server. -/
theorem Inv.install (h : Inv c [] created) (hcurrent : c.manager.current = none)
    (hopen : c.link.server.closed = false) (endpoint : Endpoint) :
    Inv { c with manager := c.manager.install endpoint } [] created := by
  have hnone : c.manager.connection? = none := by
    simp [Manager.connection?, hcurrent]
  obtain ⟨hsubscriptions, hitems, -⟩ := h.disconnected hnone
  have hc := c.manager.connection?_install endpoint
  have hlast : ∀ id n, (c.manager.install endpoint).connection? = some (id, n) →
      id = ⟨c.manager.connections.length⟩ ∧ n = { endpoint } := by
    intro id n hn
    have heq := Option.some.inj (hn.symm.trans hc)
    exact ⟨congrArg Prod.fst heq, congrArg Prod.snd heq⟩
  refine { h with valid := ?_, connected := ?_, disconnected := ?_, earlier := ?_,
                  created_known := ?_, created_ready := ?_ }
  · intro id hid
    obtain rfl : ⟨c.manager.connections.length⟩ = id := Option.some.inj hid
    exact ⟨_, (Manager.connection?_eq_some.1 hc).2⟩
  · intro id n hn
    obtain ⟨rfl, rfl⟩ := hlast id n hn
    exact {
      isOpen := hopen
      holds := ⟨hsubscriptions, hitems⟩
      entries := by
        rw [hitems]
        exact List.Perm.refl _
      pending := List.Perm.refl _
      nodup := List.nodup_nil
      fits := fun call hcall => absurd hcall List.not_mem_nil
      openings := rfl }
  · exact fun hnone' => absurd (hc.symm.trans hnone') (by simp)
  · intro id n hn hother
    have hne : id ≠ ⟨c.manager.connections.length⟩ := fun heq => hother (heq ▸ rfl)
    have hold : c.manager.get? id = some n := (Manager.get?_install_of_ne endpoint hne).symm.trans hn
    exact h.earlier id n hold (by rw [hcurrent]; simp)
  · intro p hp
    show p.1.index < (c.manager.install endpoint).connections.length
    rw [Manager.length_install]
    exact Nat.lt_succ_of_lt (h.created_known p hp)
  · intro id n hn hmem
    obtain ⟨rfl, -⟩ := hlast id n hn
    obtain ⟨p, hp, heq⟩ := List.mem_map.1 hmem
    have hlt := h.created_known p hp
    rw [heq] at hlt
    exact absurd hlt (Nat.lt_irrefl _)

/-- Establishing a session opens it or leaves the link as it is. -/
theorem establish_eq (url : String) (l : Link) :
    (∃ e, Manager.establish Link.transport url l = (.error e, l))
    ∨ ∃ endpoint, Manager.establish Link.transport url l = (.ok endpoint, { l with server :=
      { l.server with opened := l.server.opened + 1, closed := false } }) := by
  cases hdiscover : l.server.discover url with
  | error e => exact Or.inl ⟨e, by simp [Manager.establish, Link.transport, hdiscover]⟩
  | ok endpoints =>
    cases hfind : endpoints.find? fun e => e.mode = .plain with
    | none =>
      refine Or.inl ⟨.noSuitableEndpoint url, ?_⟩
      simp only [Manager.establish, Link.transport, hdiscover, hfind]
    | some endpoint =>
      by_cases hfail : l.server.failConnect
      · refine Or.inl ⟨.connect (endpoint.url ++ ": refused"), ?_⟩
        simp only [Manager.establish, Link.transport, hdiscover, hfind, Server.connect, hfail,
          if_true]
      · refine Or.inr ⟨endpoint, ?_⟩
        simp only [Manager.establish, Link.transport, hdiscover, hfind, Server.connect, hfail]
        rfl

/-- Connecting closes the current connection; a session that is opened then gets a new one. -/
theorem connect_eq {c : Client} {r : List Notice × Manager × Link}
    (hr : c.manager.closeCurrent Link.transport c.link = r) (url : String) :
    (c.connect url).2.2 = { c with manager := r.2.1, link := r.2.2 }
    ∨ ∃ endpoint, (c.connect url).2.2 = { c with
      manager := r.2.1.install endpoint
      link := { r.2.2 with server :=
        { r.2.2.server with opened := r.2.2.server.opened + 1, closed := false } } } := by
  rcases establish_eq url r.2.2 with ⟨e, he⟩ | ⟨endpoint, he⟩
  · refine Or.inl ?_
    simp only [Client.connect, Manager.connect, hr, he]
  · refine Or.inr ⟨endpoint, ?_⟩
    simp only [Client.connect, Manager.connect, hr, he]

/-- **Connecting** keeps the invariant. -/
theorem Inv.connect (h : Inv c [] created) (url : String) :
    Inv (c.connect url).2.2 [] created := by
  obtain ⟨hclosed, hcurrent⟩ := h.closeCurrent
  generalize hr : c.manager.closeCurrent Link.transport c.link = r at hclosed hcurrent
  rcases connect_eq hr url with hend | ⟨endpoint, hend⟩
  · rw [hend]
    exact hclosed
  · let l : Link := { r.2.2 with server :=
      { r.2.2.server with opened := r.2.2.server.opened + 1, closed := false } }
    have hopened : Inv { c with manager := r.2.1, link := l } [] created :=
      hclosed.set ⟨rfl, rfl, rfl, rfl⟩ fun hne => absurd hcurrent hne
    rw [hend]
    exact hopened.install hcurrent rfl endpoint

/-- A new connection has no items, and without a connection there are none. -/
theorem Inv.items_connect (h : Inv c [] created) (url : String) :
    (c.connect url).2.2.link.server.items = [] := by
  obtain ⟨hclosed, hcurrent⟩ := h.closeCurrent
  generalize hr : c.manager.closeCurrent Link.transport c.link = r at hclosed hcurrent
  have hitems : r.2.2.server.items = [] :=
    (hclosed.disconnected (by simp [Manager.connection?, hcurrent])).2.1
  rcases connect_eq hr url with hend | ⟨endpoint, hend⟩
  · rw [hend]
    exact hitems
  · rw [hend]
    exact hitems

/-- Disconnecting keeps the invariant. -/
theorem Inv.disconnect (h : Inv c [] created) : Inv c.disconnect.2 [] created := h.closeCurrent.1

end Client

/-! ## Runs -/

namespace Traffic

variable {t : Traffic}

/-- The invariant of a run. -/
def Inv (t : Traffic) : Prop := t.client.Inv t.monitors t.created

theorem inv_start (endpoints : List Endpoint) : (start endpoints).Inv where
  faultless := rfl
  numbered := fun i hi => absurd hi List.not_mem_nil
  ids := List.nodup_nil
  valid := fun id hid => absurd hid (by simp [start])
  connected := fun id n hc => absurd hc (by simp [start, Manager.connection?])
  disconnected := fun _ => ⟨rfl, rfl, fun call hcall => absurd hcall List.not_mem_nil⟩
  earlier := fun id n hn => absurd hn (by simp [start, Manager.get?])
  created_once := List.nodup_nil
  created_known := fun p hp => absurd hp List.not_mem_nil
  created_ready := fun id n hc => absurd hc (by simp [start, Manager.connection?])

/-- An event that waits until no monitor call is in progress. -/
theorem inv_idle (h : t.Inv) {c : Client}
    (hnext : t.client.Inv [] t.created → c.Inv [] t.created) :
    (if t.monitors.isEmpty then { t with client := c } else t).Inv := by
  split
  · rename_i hidle
    have hnil : t.monitors = [] := List.isEmpty_iff.1 hidle
    have hinv : t.client.Inv [] t.created := hnil ▸ h
    have hafter := hnext hinv
    rw [← hnil] at hafter
    exact hafter
  · exact h

/-- A call can be taken out of its place. -/
theorem perm_place {calls : List MonitorCall} {place : Nat} {call : MonitorCall}
    (hcall : calls[place]? = some call) :
    calls.Perm (call :: (calls.take place ++ calls.drop (place + 1))) := by
  obtain ⟨hlt, hget⟩ := List.getElem?_eq_some_iff.1 hcall
  have hsplit : calls = calls.take place ++ call :: calls.drop (place + 1) := by
    rw [← hget, List.getElem_cons_drop hlt, List.take_append_drop]
  exact (List.Perm.of_eq hsplit).trans List.perm_middle

/-- What is left of it goes back there. -/
theorem perm_back (calls : List MonitorCall) (place : Nat) (next : List MonitorCall) :
    (next ++ (calls.take place ++ calls.drop (place + 1))).Perm
      (calls.take place ++ next ++ calls.drop (place + 1)) := by
  rw [← List.append_assoc]
  exact List.perm_append_comm.append_right _

/-- **Step**: every event keeps the invariant. -/
theorem inv_step (h : t.Inv) (e : Event) : (t.step e).Inv := by
  cases e with
  | connect url => exact inv_idle h fun hinv => hinv.connect url
  | disconnect => exact inv_idle h fun hinv => hinv.disconnect
  | monitor texts => exact (Client.Inv.monitor h texts).perm (List.perm_append_singleton _ _).symm
  | monitorOn place =>
    simp only [step]
    split
    · rename_i call hcall
      have hfirst := Client.Inv.perm h (perm_place hcall)
      exact (hfirst.step t.now).perm (perm_back _ place _)
    · exact h
  | unmonitor texts => exact h
  | unmonitorOn place =>
    simp only [step]
    split
    · exact Client.Inv.finishUnmonitor h _
    · exact h
  | reject node => exact Client.Inv.set h ⟨rfl, rfl, rfl, rfl⟩ fun _ => rfl
  | allow node => exact Client.Inv.set h ⟨rfl, rfl, rfl, rfl⟩ fun _ => rfl
  | delaySubscriptions ms => exact Client.Inv.set h ⟨rfl, rfl, rfl, rfl⟩ fun _ => rfl
  | failConnect fail => exact Client.Inv.set h ⟨rfl, rfl, rfl, rfl⟩ fun _ => rfl
  | failDiscovery fail => exact Client.Inv.set h ⟨rfl, rfl, rfl, rfl⟩ fun _ => rfl
  | pass ms => exact h

/-- **Run**: every run keeps the invariant. -/
theorem inv_run (h : t.Inv) (events : List Event) : (t.run events).Inv := by
  induction events generalizing t with
  | nil => exact h
  | cons e rest ih => exact ih (inv_step h e)

end Traffic

/-! ## Agreement -/

/-- What a connection lists is what is live on a server: there is at most one subscription, all items are
on it, and the entries are the items, node by node and number by number, one for each node. -/
structure Connection.Agrees (n : Connection) (s : Server) : Prop where
  single : s.subscriptions.length ≤ 1
  own : ∀ id ∈ s.subscriptions, n.subscription = .ready id
  placed : ∀ i ∈ s.items, n.subscription = .ready i.subscription
  entries : (n.monitored.map fun p => (p.1, p.2.item)).Perm (s.items.map fun i => (i.node, i.id))
  nodes : (n.monitored.map (·.1)).Nodup
  ids : (s.items.map (·.id)).Nodup

/-- A node is monitored. -/
def Client.isMonitored (c : Client) (node : NodeId) : Bool :=
  match c.manager.connection? with
  | some (_, n) => (n.monitored.lookup node).isSome
  | none => false

/-- What a client lists is what is live on the server, and a change of a value is told once if the node is
monitored, else not at all. -/
structure Client.Agrees (c : Client) : Prop where
  connected : ∀ id n, c.manager.connection? = some (id, n) → n.Agrees c.link.server
  disconnected : c.manager.connection? = none →
    c.link.server.subscriptions = [] ∧ c.link.server.items = []
  changes : ∀ node value,
    (c.link.server.changes node value).length = if c.isMonitored node then 1 else 0

/-- The items of a node, counted by the entries. -/
theorem length_changes {entries : List (NodeId × Monitored)} {s : Server}
    (hentries : entries.Perm (s.items.map (·.entry))) (hnodes : (entries.map (·.1)).Nodup)
    (node : NodeId) (value : Value) :
    (s.changes node value).length = if (entries.lookup node).isSome then 1 else 0 := by
  have hfilter := (hentries.filter (·.1 = node)).length_eq
  rw [List.filter_map, List.length_map] at hfilter
  rw [Server.changes, List.length_map]
  refine hfilter.symm.trans ?_
  cases hm : entries.lookup node with
  | none =>
    have hnone : entries.filter (·.1 = node) = [] := by
      rw [List.filter_eq_nil_iff]
      intro p hp heq
      have hne := List.lookup_eq_none_iff.1 hm p hp
      rw [of_decide_eq_true heq] at hne
      exact absurd hne (by simp)
    rw [hnone]
    rfl
  | some m =>
    obtain ⟨before, after, hsplit, -⟩ := List.lookup_eq_some_iff.1 hm
    have hmem : (node, m) ∈ entries := hsplit ▸ List.mem_append_right _ List.mem_cons_self
    have hone := filter_key_of_mem hnodes hmem
    rw [hone]
    rfl

/-- While no monitor call is in progress, the books agree with the server. -/
theorem Client.Inv.agrees {c : Client} {created : List (ConnectionId × SubscriptionId)}
    (h : c.Inv [] created) : c.Agrees where
  connected := by
    intro id n hc
    have hbooks := h.connected id n hc
    have hentries : n.monitored.Perm (c.link.server.items.map (·.entry)) := by
      simpa using hbooks.entries
    have hnodes : (n.monitored.map (·.1)).Nodup := by simpa using hbooks.nodup
    have hmatched := hentries.map fun p => (p.1, p.2.item)
    rw [List.map_map] at hmatched
    have hholds := hbooks.holds
    cases hs : n.subscription with
    | ready s =>
      rw [hs] at hholds
      obtain ⟨honly, hplaced⟩ := hholds
      refine ⟨by simp [honly], fun id hid => ?_, fun i hi => ?_, hmatched, hnodes, h.ids⟩
      · obtain rfl : id = s := by simpa [honly] using hid
        exact hs
      · rw [hplaced i hi]
        exact hs
    | absent | opening =>
      rw [hs] at hholds
      obtain ⟨hnone, hitems⟩ := hholds
      refine ⟨by simp [hnone], fun id hid => ?_, fun i hi => ?_, hmatched, hnodes, h.ids⟩
      · exact absurd (hnone ▸ hid) List.not_mem_nil
      · exact absurd (hitems ▸ hi) List.not_mem_nil
  disconnected := fun hc =>
    have ⟨hsubscriptions, hitems, _⟩ := h.disconnected hc
    ⟨hsubscriptions, hitems⟩
  changes := by
    intro node value
    unfold isMonitored
    cases hc : c.manager.connection? with
    | none =>
      obtain ⟨-, hitems, -⟩ := h.disconnected hc
      simp [Server.changes, hitems]
    | some found =>
      obtain ⟨id, n⟩ := found
      have hbooks := h.connected id n hc
      exact length_changes (by simpa using hbooks.entries) (by simpa using hbooks.nodup) node value

namespace Traffic

/-- **Bookkeeping**: in every run from a new client each connection gets at most one subscription, and
whenever no monitor call is in progress, what is monitored is exactly what is live on the server. -/
theorem agrees_run (endpoints : List Endpoint) (events : List Event) :
    (((start endpoints).run events).created.map (·.1)).Nodup
    ∧ (((start endpoints).run events).monitors = [] →
      ((start endpoints).run events).client.Agrees) := by
  have h := inv_run (inv_start endpoints) events
  refine ⟨h.created_once, fun hidle => ?_⟩
  have hinv : Client.Inv _ _ _ := h
  rw [hidle] at hinv
  exact hinv.agrees

/-- Two calls that name a node in common while the subscription takes its time, with a node that the server
refuses; one node is let go again. -/
def overlapExample : List Event :=
  [.connect "opc.tcp://mock:4840", .reject ⟨0, .numeric 3⟩, .delaySubscriptions 20,
    .monitor ["i=1", "i=2"], .monitor ["i=2", "i=3", "i=4"], .monitorOn 1, .monitorOn 0,
    .monitorOn 1, .monitorOn 0, .pass 20, .monitorOn 1, .monitorOn 0, .monitorOn 0, .monitorOn 0,
    .unmonitor ["i=4"], .unmonitorOn 0]

theorem agrees_overlapExample :
    ((start [⟨"opc.tcp://mock:4840", .plain⟩]).run overlapExample).monitors = []
    ∧ ((start [⟨"opc.tcp://mock:4840", .plain⟩]).run overlapExample).client.link.server.items.map
      (·.node) = [⟨0, .numeric 2⟩, ⟨0, .numeric 1⟩]
    ∧ ((start [⟨"opc.tcp://mock:4840", .plain⟩]).run overlapExample).client.Agrees :=
  ⟨rfl, rfl, (agrees_run _ _).2 rfl⟩

end Traffic

end FieldBridge
