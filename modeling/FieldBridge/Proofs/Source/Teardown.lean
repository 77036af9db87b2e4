/-
  Disconnecting while monitor calls are in progress.

  1. **What a call finds** — a call that goes on after its connection was closed finds the session closed:
     it gets no subscription and no items, and ends.  The one exception is a call that was creating the
     subscription of the connection.  What it has begun comes to an end, and there is then a subscription
     that nobody deletes.

  2. **Down** — so what the server holds and the subscriptions still being created add up to the same
     number, whatever happens until the next connect (`Down.step`).

  3. **Leftovers** (`leftovers_run`) — once disconnected, nothing is monitored and no item is live, and
     when all calls have ended the subscriptions left are those that were being created, which is at most
     one.  One can be left (`leftover_delayExample`).
-/

import FieldBridge.Proofs.Source.Traffic

namespace FieldBridge

namespace Client

variable {c : Client} {calls rest : List MonitorCall} {call : MonitorCall} {left : Nat}

/-! ## Calls on a closed session -/

/-- A client that is disconnected for good.  All that can still appear on the server are the subscriptions
that were being created. -/
structure Down (c : Client) (calls : List MonitorCall) (left : Nat) : Prop where
  faultless : c.link.faults = {}
  current : c.manager.current = none
  items : c.link.server.items = []
  /-- A call that has begun finds the session closed. -/
  closed : ∀ call ∈ calls, (∃ texts, call = .asking texts) ∨ c.link.server.closed = true
  subscriptions : c.link.server.subscriptions.length + calls.countP (·.isOpening) = left

/-- The order of the calls does not matter. -/
theorem Down.perm {calls' : List MonitorCall} (h : Down c calls left) (hperm : calls.Perm calls') :
    Down c calls' left :=
  { h with
    closed := fun call hcall => h.closed call (hperm.mem_iff.2 hcall)
    subscriptions := hperm.countP_eq _ ▸ h.subscriptions }

/-- The rest of the server does not matter. -/
theorem Down.set (h : Down c calls left) {l : Link} (hsame : SameBooks c.link l)
    (hclosed : l.server.closed = c.link.server.closed) : Down { c with link := l } calls left where
  faultless := hsame.faults.trans h.faultless
  current := h.current
  items := hsame.items.trans h.items
  closed := by
    rw [hclosed]
    exact h.closed
  subscriptions := by
    rw [hsame.subscriptions]
    exact h.subscriptions

/-- Connections that are no longer current do not matter. -/
theorem Down.modify (h : Down c calls left) (id : ConnectionId) (f : Connection → Connection) :
    Down (c.modify id f) calls left :=
  { h with }

/-- A call that creates no subscription may end. -/
theorem Down.drop (h : Down c (call :: rest) left) (hcall : call.isOpening = false) :
    Down c rest left :=
  { h with
    closed := (List.forall_mem_cons.1 h.closed).2
    subscriptions := by simpa [List.countP_cons, hcall] using h.subscriptions }

/-- A call may wait for something else. -/
theorem Down.replace {next : MonitorCall} (h : Down c (call :: rest) left)
    (hclosed : c.link.server.closed = true) (hsame : next.isOpening = call.isOpening) :
    Down c (next :: rest) left :=
  { h with
    closed := fun _ _ => Or.inr hclosed
    subscriptions := by
      rw [List.countP_cons, hsame, ← List.countP_cons]
      exact h.subscriptions }

/-- On a closed session no items are created. -/
theorem createItems_closed (hfaults : c.link.faults = {}) (hclosed : c.link.server.closed = true)
    (id : ConnectionId) (claim : Claim) (subscription : SubscriptionId) :
    ∃ link nextHandle, c.createItems id claim subscription
        = ([], some (.recording id claim (.error .closed)), { c with link, nextHandle })
      ∧ SameBooks c.link link ∧ link.server.closed = true := by
  refine ⟨(c.createItems id claim subscription).2.2.link, c.nextHandle + claim.length, ?_, ?_, ?_⟩
  · simp [Client.createItems, Link.createItems, Server.createItems, hfaults, hclosed, Except.map]
  · constructor <;>
      simp [Client.createItems, Link.createItems, Server.createItems, hfaults, hclosed]
  · simp [Client.createItems, Link.createItems, Server.createItems, hfaults, hclosed]

/-- A call that asks for items on a closed session goes on to its end. -/
theorem Down.createItems (h : Down c (call :: rest) left) (hclosed : c.link.server.closed = true)
    (hcall : call.isOpening = false) (id : ConnectionId) (claim : Claim)
    (subscription : SubscriptionId) :
    Down (c.createItems id claim subscription).2.2
      ((c.createItems id claim subscription).2.1.toList ++ rest) left := by
  obtain ⟨link, nextHandle, hanswer, hsame, hstill⟩ :=
    createItems_closed h.faultless hclosed id claim subscription
  rw [hanswer]
  have hasked : Down { c with link, nextHandle } (call :: rest) left :=
    { h.set hsame (hstill.trans hclosed.symm) with }
  exact hasked.replace hstill hcall.symm

/-- A call waits for the subscription: there is none to be had. -/
theorem Down.subscribe {id : ConnectionId} {claim : Claim} (h : Down c (.waiting id claim :: rest) left)
    (hclosed : c.link.server.closed = true) (now : Nat) :
    Down (c.subscribe now id claim).2.2 ((c.subscribe now id claim).2.1.toList ++ rest) left := by
  have hrefused : c.link.beginSubscription = (.error .closed, c.link) := by
    rw [Link.beginSubscription, if_neg (by simp [h.faultless]), Server.beginSubscription,
      if_pos hclosed]
  unfold Client.subscribe
  split
  · exact h.drop rfl
  · split
    · exact h.createItems hclosed rfl id claim _
    · exact h
    · rw [hrefused]
      exact (h.drop rfl).modify id _

/-- A subscription that was being created comes into being on a closed session. -/
theorem Down.opened {id : ConnectionId} {claim : Claim} {due : Nat}
    (h : Down c (.opening id claim due :: rest) left) (hclosed : c.link.server.closed = true) :
    Down (c.opened id claim).2.2 ((c.opened id claim).2.1.toList ++ rest) left := by
  let after : Client := { c with link := c.link.endSubscription.2 }.modify id fun n =>
    { n with subscription := .ready c.link.endSubscription.1 }
  have hafter : Down after (.waiting id claim :: rest) left := by
    refine { h with closed := fun _ _ => Or.inr hclosed, subscriptions := ?_ }
    have hcount := h.subscriptions
    rw [List.countP_cons_of_pos rfl] at hcount
    -- the subscription is listed although the session is closed; the call no longer counts
    show (c.link.server.subscriptions ++ [_]).length + _ = left
    rw [List.length_append, List.length_singleton,
      List.countP_cons_of_neg (by simp [MonitorCall.isOpening])]
    omega
  exact hafter.createItems hclosed rfl id claim _

/-- **Step** of a monitor call. -/
theorem Down.step (h : Down c (call :: rest) left) (now : Nat) :
    Down (c.step now call).2.2 ((c.step now call).2.1.toList ++ rest) left := by
  have hclosed : (∃ texts, call = .asking texts) ∨ c.link.server.closed = true :=
    h.closed call List.mem_cons_self
  cases call with
  | asking texts =>
    have hnone : c.manager.connection? = none := by simp [Manager.connection?, h.current]
    have hend : c.step now (.asking texts) = ([], none, c) := by
      simp [Client.step, Client.ask, hnone]
    rw [hend]
    exact h.drop rfl
  | waiting id claim => exact h.subscribe (hclosed.resolve_left (by simp)) now
  | opening id claim due =>
    by_cases hdue : due ≤ now
    · simp only [Client.step, if_pos hdue]
      exact h.opened (hclosed.resolve_left (by simp))
    · simp only [Client.step, if_neg hdue]
      exact h
  | recording id claim answer =>
    have hcurrent : (c.conclude id claim answer).2.manager.current = c.manager.current := by
      cases answer with
      | error e => rfl
      | ok results =>
        simp only [Client.conclude]
        split <;> rfl
    have hlink := c.link_conclude id claim answer
    have hrest := h.drop rfl
    exact {
      faultless := hlink ▸ hrest.faultless
      current := hcurrent.trans hrest.current
      items := hlink ▸ hrest.items
      closed := hlink ▸ hrest.closed
      subscriptions := hlink ▸ hrest.subscriptions }

/-- An unmonitor call finds nothing to delete. -/
theorem Down.finishUnmonitor (h : Down c calls left) (own : UnmonitorCall) :
    Down (c.finishUnmonitor own).2 calls left := by
  cases hget : c.manager.get? own.connection with
  | none =>
    have hend : c.finishUnmonitor own = ([], c) := by simp [Client.finishUnmonitor, hget]
    rw [hend]
    exact h
  | some n =>
    rcases c.finishUnmonitor_cases h.faultless own hget with
      ⟨-, hend⟩ | ⟨-, hend⟩ | ⟨-, -, hend⟩
    · rw [hend]
      exact h
    · rw [hend]
      exact h
    · rw [hend]
      have hnone : c.link.server.items.filter
          (·.id ∉ (n.targets own.texts).map (·.2.item)) = [] := by
        rw [h.items, List.filter_nil]
      exact { h with items := hnone }

/-- **Disconnecting** with calls in progress: what was being created is left. -/
theorem Inv.down {created : List (ConnectionId × SubscriptionId)} (h : Inv c calls created) :
    Down c.disconnect.2 calls (calls.countP (·.isOpening)) := by
  show Down { c with
    manager := (c.manager.closeCurrent Link.transport c.link).2.1
    link := (c.manager.closeCurrent Link.transport c.link).2.2 } calls _
  cases hc : c.manager.connection? with
  | none =>
    obtain ⟨hsubscriptions, hitems, hasking⟩ := h.disconnected hc
    rw [closeCurrent_of_none hc]
    refine ⟨h.faultless, h.current_eq_none hc, hitems, fun call hcall => Or.inl (hasking call hcall), ?_⟩
    show c.link.server.subscriptions.length + _ = _
    rw [hsubscriptions, List.length_nil, Nat.zero_add]
  | some found =>
    obtain ⟨id, n⟩ := found
    have hbooks := h.connected id n hc
    obtain ⟨hfaults, hsubscriptions, hitems, -⟩ :=
      closed_link h.faultless hbooks.isOpen hbooks.holds id
    rw [closeCurrent_of_some hc]
    refine ⟨hfaults, rfl, hitems, fun _ _ => Or.inr rfl, ?_⟩
    show List.length _ + _ = _
    rw [hsubscriptions, List.length_nil, Nat.zero_add]

/-- At most one call is creating a subscription. -/
theorem Inv.openings_le {created : List (ConnectionId × SubscriptionId)} (h : Inv c calls created) :
    calls.countP (·.isOpening) ≤ 1 := by
  cases hc : c.manager.connection? with
  | none =>
    obtain ⟨-, -, hasking⟩ := h.disconnected hc
    have hnone : calls.countP (·.isOpening) = 0 := by
      refine List.countP_eq_zero.2 fun call hcall => ?_
      obtain ⟨texts, rfl⟩ := hasking call hcall
      exact Bool.false_ne_true
    omega
  | some found =>
    obtain ⟨id, n⟩ := found
    rw [(h.connected id n hc).openings]
    split <;> omega

end Client

/-! ## Runs -/

namespace Traffic

variable {t : Traffic} {left : Nat}

/-- Disconnect at once, whatever calls are in progress. -/
def cut (t : Traffic) : Traffic := { t with client := t.client.disconnect.2 }

/-- The client is disconnected for good. -/
def Down (t : Traffic) (left : Nat) : Prop := t.client.Down t.monitors left

/-- **Step**: nothing but a connect brings anything back. -/
theorem Down.step (h : t.Down left) {e : Event} (hconnect : ∀ url, e ≠ .connect url) :
    (t.step e).Down left := by
  cases e with
  | connect url => exact absurd rfl (hconnect url)
  | disconnect =>
    have hnone : t.client.manager.connection? = none := by simp [Manager.connection?, h.current]
    have hsame : t.client.disconnect.2 = t.client := by
      simp only [Client.disconnect, Manager.disconnect, Client.closeCurrent_of_none hnone]
    simp only [Traffic.step, hsame]
    split <;> exact h
  | monitor texts =>
    have hnew : Client.Down t.client (.asking texts :: t.monitors) left :=
      { h with
        closed := List.forall_mem_cons.2 ⟨Or.inl ⟨texts, rfl⟩, h.closed⟩
        subscriptions := h.subscriptions }
    exact hnew.perm (List.perm_append_singleton _ _).symm
  | monitorOn place =>
    simp only [Traffic.step]
    split
    · rename_i call hcall
      have hfirst := Client.Down.perm h (perm_place hcall)
      exact (hfirst.step t.now).perm (perm_back _ place _)
    · exact h
  | unmonitor texts => exact h
  | unmonitorOn place =>
    simp only [Traffic.step]
    split
    · exact Client.Down.finishUnmonitor h _
    · exact h
  | reject node => exact Client.Down.set h ⟨rfl, rfl, rfl, rfl⟩ rfl
  | allow node => exact Client.Down.set h ⟨rfl, rfl, rfl, rfl⟩ rfl
  | delaySubscriptions ms => exact Client.Down.set h ⟨rfl, rfl, rfl, rfl⟩ rfl
  | failConnect fail => exact Client.Down.set h ⟨rfl, rfl, rfl, rfl⟩ rfl
  | failDiscovery fail => exact Client.Down.set h ⟨rfl, rfl, rfl, rfl⟩ rfl
  | pass ms => exact h

/-- **Run**. -/
theorem Down.run (h : t.Down left) {events : List Event} (hconnect : ∀ url, .connect url ∉ events) :
    (t.run events).Down left := by
  induction events generalizing t with
  | nil => exact h
  | cons e rest ih =>
    refine ih (h.step fun url heq => ?_) fun url hmem => ?_
    · exact hconnect url (heq ▸ List.mem_cons_self)
    · exact hconnect url (List.mem_cons_of_mem e hmem)

/-- **Leftovers**: after a disconnect with any calls in progress, and without a later connect, nothing is
monitored and no item is live, and once all monitor calls have ended the subscriptions left are those that
were being created at the time, which is at most one. -/
theorem leftovers_run (endpoints : List Endpoint) (before after : List Event)
    (hconnect : ∀ url, .connect url ∉ after) :
    let t := (start endpoints).run before
    let t' := t.cut.run after
    t'.client.monitoredTexts = [] ∧ t'.client.link.server.items = []
      ∧ t.monitors.countP (·.isOpening) ≤ 1
      ∧ (t'.monitors = [] →
        t'.client.link.server.subscriptions.length = t.monitors.countP (·.isOpening)) := by
  intro t t'
  have hinv : t.Inv := inv_run (inv_start endpoints) before
  have hdown : t'.Down (t.monitors.countP (·.isOpening)) :=
    Down.run (t := t.cut) (Client.Inv.down hinv) hconnect
  refine ⟨?_, hdown.items, Client.Inv.openings_le hinv, fun hidle => ?_⟩
  · simp [Client.monitoredTexts, Manager.connection?, hdown.current]
  · have hcount := hdown.subscriptions
    rw [hidle] at hcount
    exact hcount

/-- A monitor call that waits for its subscription. -/
def delayExample : List Event :=
  [.connect "opc.tcp://mock:4840", .delaySubscriptions 20, .monitor ["i=1"], .monitorOn 0, .monitorOn 0]

/-- The call goes on once the subscription has taken its time. -/
def delayedExample : List Event := [.pass 20, .monitorOn 0, .monitorOn 0]

/-- The subscription comes into being after the disconnect, and stays; the items asked for then are
refused. -/
theorem leftover_delayExample :
    let t := (start [⟨"opc.tcp://mock:4840", .plain⟩]).run delayExample
    let t' := t.cut.run delayedExample
    t.monitors.length = 1 ∧ t'.monitors = []
      ∧ t'.client.link.server.closed = true ∧ t'.client.link.server.subscriptions = [⟨1⟩]
      ∧ t'.client.link.server.items = [] :=
  ⟨rfl, rfl, rfl, rfl,
    (leftovers_run _ delayExample delayedExample (by simp [delayedExample])).2.1⟩

end Traffic

end FieldBridge
