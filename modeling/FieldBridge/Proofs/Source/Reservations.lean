/-
  The nodes that monitor calls hold.

  Calls overlap, connections come and go, and the server may refuse a subscription at once or after a
  while, fail the request for items, or refuse single nodes.  Whatever happens, no node is lost:

  1. **Hazards** — what may happen to calls at any time.  To the connections and the calls on them it is
     one of five things (`Manager.Faced`, `faced`).

  2. **Books** — through all of it the pending nodes of a connection are those that calls hold, each held
     once (`Reserves.faced`), and, if answers are about the nodes asked for, no call holds a node that is
     monitored (`Apart.faced`).

  3. **Claiming again** — a node that is neither monitored nor held can be claimed, and a call asks for all
     that it has claimed (`claims_again`, `Available.asks`).

  4. **Reservations** — so a call that ends has nothing pending any more, it leaves all entries as they were
     and makes one for each node created (`reservations`).
-/

import Mathlib.Data.List.Induction
import FieldBridge.Proofs.Source.Turns

namespace FieldBridge

variable {m m' : Manager} {call : MonitorCall} {calls : List MonitorCall} {id : ConnectionId}
  {f : Connection → Connection}

/-! ## Hazards -/

namespace Traffic

/-- What can happen to calls, at any time. -/
inductive Hazard where
  /-- The client connects or disconnects, whatever calls are in progress. -/
  | connect (url : String)
  | disconnect
  | monitor (texts : List String)
  /-- The monitor call at this place takes a turn. -/
  | turn (place : Nat) (turn : Turn)
  /-- The requests of the monitor call at this place get another answer. -/
  | answer (place : Nat) (answer : Except TransportError (List ItemResult))
  | unmonitor (texts : List String)
  /-- The unmonitor call at this place goes on to its end. -/
  | unmonitorOn (place : Nat)
  /-- Anything changes on the link and the server. -/
  | link (link : Link)
  | pass (ms : Nat)

/-- What is left of the call at a place takes that place. -/
def replace (t : Traffic) (place : Nat) (next : Option MonitorCall) : Traffic :=
  { t with monitors := t.monitors.take place ++ next.toList ++ t.monitors.drop (place + 1) }

/-- One of these things happens. -/
def face (t : Traffic) : Hazard → Traffic
  | .connect url => { t with client := (t.client.connect url).2.2 }
  | .disconnect => { t with client := t.client.disconnect.2 }
  | .monitor texts => t.step (.monitor texts)
  | .turn place turn => match t.monitors[place]? with
    | some call =>
      let (_, next, client) := t.client.turn t.now turn call
      { t.replace place next with client }
    | none => t
  | .answer place answer => match t.monitors[place]? with
    | some (.recording id claim _) => t.replace place (some (.recording id claim answer))
    | _ => t
  | .unmonitor texts => t.step (.unmonitor texts)
  | .unmonitorOn place => t.step (.unmonitorOn place)
  | .link link => { t with client := { t.client with link } }
  | .pass ms => t.step (.pass ms)

/-- They happen one after another. -/
def endure (t : Traffic) (hazards : List Hazard) : Traffic := hazards.foldl face t

/-- All answers in flight are about the nodes asked for. -/
def Faithful (t : Traffic) : Prop := ∀ call ∈ t.monitors, call.Faithful

instance (t : Traffic) : Decidable t.Faithful :=
  inferInstanceAs (Decidable (∀ call ∈ t.monitors, call.Faithful))

end Traffic

/-- A change of a connection takes entries out, if anything: it leaves the claims alone and takes nothing
in. -/
def Manager.Erases (m : Manager) (id : ConnectionId) (f : Connection → Connection) : Prop :=
  ∀ n, m.get? id = some n → (f n).pending = n.pending
    ∧ ∀ node, n.monitored.lookup node = none → (f n).monitored.lookup node = none

/-- Closing leaves the connections. -/
theorem Manager.get?_closeCurrent {σ : Type} (t : Transport σ) (m : Manager) (s : σ)
    (id : ConnectionId) : (m.closeCurrent t s).2.1.get? id = m.get? id := by
  unfold closeCurrent
  split <;> rfl

/-- Connecting leaves the connections or adds one. -/
theorem Client.manager_connect (c : Client) (url : String) :
    (∀ id, (c.connect url).2.2.manager.get? id = c.manager.get? id)
    ∨ ∃ (m : Manager) (endpoint : Endpoint), (∀ id, m.get? id = c.manager.get? id)
      ∧ (c.connect url).2.2.manager = m.install endpoint := by
  have hclosed := c.manager.get?_closeCurrent Link.transport c.link
  rcases Client.connect_eq rfl url with hend | ⟨endpoint, hend⟩
  · rw [hend]
    exact Or.inl hclosed
  · rw [hend]
    exact Or.inr ⟨_, endpoint, hclosed, rfl⟩

/-- An unmonitor call takes entries out of its connection. -/
theorem Client.manager_finishUnmonitor (c : Client) (own : UnmonitorCall) :
    ∃ f : Connection → Connection, c.manager.Erases own.connection f
      ∧ (c.finishUnmonitor own).2.manager = c.manager.modify own.connection f := by
  have hsame : ∃ f : Connection → Connection, c.manager.Erases own.connection f
      ∧ c.manager = c.manager.modify own.connection f :=
    ⟨fun n => n, fun n _ => ⟨rfl, fun node h => h⟩, (c.manager.modify_self _).symm⟩
  unfold Client.finishUnmonitor
  split
  · exact hsame
  · rename_i n hn
    dsimp only
    split
    · exact hsame
    · split
      · exact hsame
      · refine ⟨_, fun n' hn' => ?_, rfl⟩
        obtain rfl : n = n' := Option.some.inj (hn.symm.trans hn')
        exact n.erase_keeps _ _

/-- What can become of the connections and of the calls in progress. -/
inductive Manager.Faced (m : Manager) (calls : List MonitorCall) : Manager → List MonitorCall → Prop where
  /-- Every connection is as it was, whichever is current now. -/
  | rests {m' : Manager} (hsame : ∀ id, m'.get? id = m.get? id) : Faced m calls m' calls
  /-- A connection is installed beside them. -/
  | installs {m' : Manager} (endpoint : Endpoint) (hsame : ∀ id, m'.get? id = m.get? id) :
    Faced m calls (m'.install endpoint) calls
  /-- A call comes in. -/
  | begins (texts : List String) : Faced m calls m (calls ++ [.asking texts])
  /-- The call at a place takes a turn. -/
  | turns {m' : Manager} {call : MonitorCall} {next : Option MonitorCall} {place : Nat}
    (hcall : calls[place]? = some call) (hturn : m.Turned call next m') :
    Faced m calls m' (calls.take place ++ next.toList ++ calls.drop (place + 1))
  /-- Entries are taken out of a connection. -/
  | erases {id : ConnectionId} {f : Connection → Connection} (hf : m.Erases id f) :
    Faced m calls (m.modify id f) calls

/-- **What a hazard can do** to connections and calls. -/
theorem Traffic.faced (t : Traffic) (hazard : Traffic.Hazard)
    (hknown : ∀ call ∈ t.monitors, ∀ id, call.connection? = some id →
      ∃ n, t.client.manager.get? id = some n) :
    t.client.manager.Faced t.monitors (t.face hazard).client.manager (t.face hazard).monitors := by
  cases hazard with
  | connect url =>
    simp only [face]
    rcases t.client.manager_connect url with hsame | ⟨m, endpoint, hsame, hend⟩
    · exact .rests hsame
    · rw [hend]
      exact .installs endpoint hsame
  | disconnect => exact .rests (t.client.manager.get?_closeCurrent Link.transport t.client.link)
  | monitor texts => exact .begins texts
  | turn place turn =>
    simp only [face]
    split
    · rename_i call hcall
      exact .turns hcall (t.client.turn_turned t.now turn call (hknown call (List.mem_of_getElem? hcall)))
    · exact .rests fun _ => rfl
  | answer place answer =>
    simp only [face]
    split
    · rename_i id claim before hcall
      have hstays : t.client.manager.Turned (.recording id claim before)
          (some (.recording id claim answer)) t.client.manager := .stays rfl rfl rfl
      exact .turns hcall hstays
    · exact .rests fun _ => rfl
  | unmonitorOn place =>
    simp only [face, step]
    split
    · rename_i own hown
      obtain ⟨f, hf, hend⟩ := t.client.manager_finishUnmonitor own
      rw [hend]
      exact .erases hf
    · exact .rests fun _ => rfl
  | unmonitor texts => exact .rests fun _ => rfl
  | link link => exact .rests fun _ => rfl
  | pass ms => exact .rests fun _ => rfl

/-! ## Books -/

/-- Taking entries out leaves the claims. -/
theorem Reserves.erase (h : Reserves m calls) (hf : m.Erases id f) :
    Reserves (m.modify id f) calls := by
  have hpending : ∀ other n', (m.modify id f).get? other = some n' →
      ∃ n, m.get? other = some n ∧ n'.pending = n.pending := by
    intro other n' hn'
    obtain ⟨n, hn, rfl⟩ := Manager.get?_modify_eq_some hn'
    refine ⟨n, hn, ?_⟩
    split
    · rename_i heq
      exact (hf n (heq ▸ hn)).1
    · rfl
  refine ⟨fun call hcall own hown => Manager.exists_get?_modify (h.known call hcall own hown),
    fun other n' hn' => ?_, fun other n' hn' => ?_⟩
  · obtain ⟨n, hn, heq⟩ := hpending other n' hn'
    exact heq ▸ h.pending other n hn
  · obtain ⟨n, hn, heq⟩ := hpending other n' hn'
    exact heq ▸ h.nodup other n hn

/-- Taking entries out makes no node monitored. -/
theorem Apart.erase (h : Apart m calls) (hf : m.Erases id f) : Apart (m.modify id f) calls := by
  intro other n' hn' node hnode
  obtain ⟨n, hn, rfl⟩ := Manager.get?_modify_eq_some hn'
  have hnone := h other n hn node hnode
  split
  · rename_i heq
    exact (hf n (heq ▸ hn)).2 node hnone
  · exact hnone

/-- Which connection is current does not matter. -/
theorem Reserves.congr (h : Reserves m calls) (hsame : ∀ id, m'.get? id = m.get? id) :
    Reserves m' calls where
  known := fun call hcall id hid => (h.known call hcall id hid).imp fun _ hn => (hsame id).trans hn
  pending := fun id n hn => h.pending id n ((hsame id).symm.trans hn)
  nodup := fun id n hn => h.nodup id n ((hsame id).symm.trans hn)

/-- A connection that is just installed is new, and nothing is held on it. -/
theorem Reserves.install_cases (h : Reserves m calls) (endpoint : Endpoint) {n : Connection}
    (hn : (m.install endpoint).get? id = some n) :
    m.get? id = some n ∨ n = { endpoint } ∧ claimedOn id calls = [] := by
  by_cases hid : id = ⟨m.connections.length⟩
  · subst hid
    have hnew := (Manager.connection?_eq_some.1 (m.connection?_install endpoint)).2
    have hnone : m.get? ⟨m.connections.length⟩ = none := List.getElem?_eq_none (Nat.le_refl _)
    refine Or.inr ⟨Option.some.inj (hn.symm.trans hnew), List.flatMap_eq_nil_iff.2 fun c hc => ?_⟩
    refine if_neg fun hown => ?_
    obtain ⟨old, hold⟩ := h.known c hc _ hown
    exact absurd (hnone.symm.trans hold) (by simp)
  · exact Or.inl ((Manager.get?_install_of_ne endpoint hid).symm.trans hn)

theorem Reserves.install (h : Reserves m calls) (endpoint : Endpoint) :
    Reserves (m.install endpoint) calls where
  known := fun call hcall id hid => by
    obtain ⟨n, hn⟩ := h.known call hcall id hid
    refine ⟨n, (Manager.get?_install_of_ne endpoint fun heq => ?_).trans hn⟩
    subst heq
    exact absurd hn (by simp [Manager.get?])
  pending := fun id n hn => by
    rcases h.install_cases endpoint hn with hold | ⟨rfl, hnone⟩
    · exact h.pending id n hold
    · rw [hnone]
  nodup := fun id n hn => by
    rcases h.install_cases endpoint hn with hold | ⟨rfl, -⟩
    · exact h.nodup id n hold
    · exact List.nodup_nil

/-- **Step**: whatever happens, the books are kept. -/
theorem Reserves.faced (h : Reserves m calls) {calls' : List MonitorCall} (hfaced : m.Faced calls m' calls') :
    Reserves m' calls' := by
  cases hfaced with
  | rests hsame => exact h.congr hsame
  | installs endpoint hsame => exact (h.congr hsame).install endpoint
  | begins texts =>
    have hfirst : Reserves m (.asking texts :: calls) := {
      known := fun call hcall id hid => by
        rcases List.mem_cons.1 hcall with rfl | hcall
        · exact absurd hid (by simp [MonitorCall.connection?])
        · exact h.known call hcall id hid
      pending := fun id n hn => by simpa [claimedOn] using h.pending id n hn
      nodup := h.nodup }
    exact hfirst.perm (List.perm_append_singleton _ _).symm
  | @turns _ call next place hcall hturn =>
    have hfirst := h.perm (Traffic.perm_place hcall)
    exact (hfirst.turned hturn).perm (Traffic.perm_back calls place next.toList)
  | erases hf => exact h.erase hf

/-- **Step**: if answers are about the nodes asked for, nothing that is held becomes monitored. -/
theorem Apart.faced (h : Apart m calls) (hbooks : Reserves m calls)
    (hfaithful : ∀ call ∈ calls, call.Faithful) {calls' : List MonitorCall}
    (hfaced : m.Faced calls m' calls') : Apart m' calls' := by
  cases hfaced with
  | rests hsame => exact fun id n hn => h id n ((hsame id).symm.trans hn)
  | installs endpoint hsame =>
    intro id n hn node hnode
    rcases (hbooks.congr hsame).install_cases endpoint hn with hold | ⟨rfl, -⟩
    · exact h id n ((hsame id).symm.trans hold) node hnode
    · rfl
  | begins texts =>
    have hfirst : Apart m (.asking texts :: calls) := fun id n hn node hnode =>
      h id n hn node (by simpa [claimedOn] using hnode)
    exact hfirst.perm (List.perm_append_singleton _ _).symm
  | @turns _ call next place hcall hturn =>
    have hfirst := h.perm (Traffic.perm_place hcall)
    have hturned := hfirst.turned (hbooks.perm (Traffic.perm_place hcall))
      (hfaithful call (List.mem_of_getElem? hcall)) hturn
    exact hturned.perm (Traffic.perm_back calls place next.toList)
  | erases hf => exact h.erase hf

namespace Traffic

/-- **Run**: the books of the nodes held. -/
theorem reserves_endure (endpoints : List Endpoint) (hazards : List Hazard) :
    Reserves ((start endpoints).endure hazards).client.manager
      ((start endpoints).endure hazards).monitors := by
  induction hazards using List.reverseRecOn with
  | nil =>
    refine ⟨fun call hcall => absurd hcall List.not_mem_nil, fun id n hn => ?_, fun id n hn => ?_⟩
    · exact absurd hn (by simp [endure, start, Manager.get?])
    · exact absurd hn (by simp [endure, start, Manager.get?])
  | append_singleton before hazard ih =>
    rw [endure, List.foldl_append]
    exact ih.faced (Traffic.faced _ hazard ih.known)

/-- **Run**: what is held and what is monitored. -/
theorem apart_endure (endpoints : List Endpoint) (hazards : List Hazard)
    (hfaithful : ∀ before, before <+: hazards → ((start endpoints).endure before).Faithful) :
    Apart ((start endpoints).endure hazards).client.manager
      ((start endpoints).endure hazards).monitors := by
  induction hazards using List.reverseRecOn with
  | nil => exact fun id n _ node hnode => absurd hnode List.not_mem_nil
  | append_singleton before hazard ih =>
    have hprefix : before <+: before ++ [hazard] := List.prefix_append _ _
    rw [endure, List.foldl_append]
    have hbooks := reserves_endure endpoints before
    have happart := ih fun b hb => hfaithful b (hb.trans hprefix)
    exact happart.faced hbooks (hfaithful before hprefix) (Traffic.faced _ hazard hbooks.known)

end Traffic

/-! ## Claiming again -/

namespace Client

/-- The subscription that a call waits for is there, or is created now. -/
def Available (c : Client) (now : Nat) : MonitorCall → Prop
  | .waiting id _ => ∃ n, c.manager.get? id = some n ∧ ((∃ s, n.subscription = .ready s)
    ∨ n.subscription = .absent ∧ c.link.beginSubscription.1 = .ok 0)
  | .opening _ _ due => due ≤ now
  | _ => False

variable {c : Client} {now : Nat}

/-- A call asks for an item of each node of its claim. -/
def Asks (c : Client) (call : MonitorCall) (outcome : Progress) : Prop :=
  ∃ (id : ConnectionId) (answer : Except TransportError (List ItemResult))
    (requests : List MonitorRequest), call.connection? = some id
    ∧ outcome.2.1 = some (.recording id call.claim answer)
    ∧ requests.map (·.node) = call.claim.nodes
    ∧ outcome.2.2.link.requests = requests.reverse ++ c.link.requests

/-- The requests that a call makes once it has got the subscription. -/
theorem asks_createItems (c' : Client) (call : MonitorCall)
    (hlink : c'.link.requests = c.link.requests) (hown : call.connection? = some id)
    (s : SubscriptionId) :
    c.Asks call (c'.createItems id call.claim s) := by
  refine ⟨id, _, _, hown, rfl, Connection.nodes_requests call.claim c'.nextHandle, ?_⟩
  rw [← hlink]
  simp only [createItems, Link.createItems]
  split <;> rfl

/-- **Asking**: with the subscription there, a call asks for what it has claimed. -/
theorem Available.asks (h : c.Available now call) : c.Asks call (c.turn now .on call) := by
  cases call with
  | asking texts => exact absurd h (by simp [Available])
  | recording id claim answer => exact absurd h (by simp [Available])
  | opening id claim due =>
    have hstep : c.turn now .on (.opening id claim due) = c.opened id claim := if_pos h
    rw [hstep]
    exact asks_createItems (c.subscribed id) (.opening id claim due) rfl rfl _
  | waiting id claim =>
    obtain ⟨n, hn, ⟨s, hs⟩ | ⟨hs, hbegun⟩⟩ := h
    · have hstep : c.turn now .on (.waiting id claim) = c.createItems id claim s := by
        simp [Client.turn, Client.step, Client.subscribe, hn, hs]
      rw [hstep]
      exact asks_createItems c (.waiting id claim) rfl rfl s
    · have hstep : c.turn now .on (.waiting id claim)
          = { c with link := c.link.beginSubscription.2 }.opened id claim := by
        generalize hstart : c.link.beginSubscription = begun at hbegun
        obtain ⟨answer, link⟩ := begun
        obtain rfl : answer = .ok 0 := hbegun
        simp [Client.turn, Client.step, Client.subscribe, hn, hs, hstart]
      have hrequests : c.link.beginSubscription.2.requests = c.link.requests := by
        unfold Link.beginSubscription
        split <;> rfl
      rw [hstep]
      exact asks_createItems ({ c with link := c.link.beginSubscription.2 }.subscribed id)
        (.waiting id claim) hrequests rfl _

/-- **Claiming**: a node that is neither monitored nor held by a call can be claimed. -/
theorem claims_again {n : Connection} {texts : List String} {node : NodeId}
    (hbooks : Reserves c.manager calls) (hc : c.manager.connection? = some (id, n))
    (hnamed : Names texts node) (hmonitored : n.monitored.lookup node = none)
    (hheld : node ∉ claimedOn id calls) : ∃ claim, node ∈ claim.nodes
      ∧ (c.turn now .on (.asking texts)).2.1 = some (.waiting id claim) := by
  have hpending : node ∉ n.pending := fun hmem =>
    hheld ((hbooks.pending id n (Manager.connection?_eq_some.1 hc).2).mem_iff.1 hmem)
  have hclaimed : node ∈ (n.claim texts).2.1.nodes := Connection.mem_nodes_claim_iff.2
    ⟨Connection.isTaken_eq_false_iff.2 ⟨hmonitored, hpending⟩, hnamed⟩
  have hfull : (n.claim texts).2.1.isEmpty = false := by
    cases hclaim : (n.claim texts).2.1 with
    | nil => rw [hclaim] at hclaimed; exact absurd hclaimed List.not_mem_nil
    | cons p rest => rfl
  exact ⟨(n.claim texts).2.1, hclaimed, by simp [Client.turn, Client.step, Client.ask, hc, hfull]⟩

end Client

/-! ## Reservations -/

namespace Traffic

/-- **Reservations**: whatever a server answers and however calls overlap, the pending nodes of a connection
are those that the calls in progress hold, each held by one call and once; a call that ends has none of its
nodes pending any more and adds to the entries just the nodes created.  If answers are about the nodes asked
for, it leaves all entries as they were, and of its nodes those are monitored that have been created.  A
node that is neither monitored nor held is claimed by the next call that names it, and a call asks for all
that it has claimed once the subscription is there. -/
theorem reservations (endpoints : List Endpoint) (hazards : List Hazard) :
    let t := (start endpoints).endure hazards
    (∀ id n, t.client.manager.get? id = some n →
      n.pending.Perm (claimedOn id t.monitors) ∧ n.pending.Nodup)
    ∧ (∀ id, t.monitors.Pairwise fun a b => (a.held id).Disjoint (b.held id))
    ∧ (∀ call ∈ t.monitors, ∀ turn, let outcome := t.client.turn t.now turn call
      ∀ id n, t.client.manager.get? id = some n → ∃ n', outcome.2.2.manager.get? id = some n'
        ∧ (outcome.2.1 = none → ∀ node ∈ call.held id, node ∉ n'.pending)
        ∧ Enters call outcome.2.1 id n n'
        ∧ ((∀ before, before <+: hazards → ((start endpoints).endure before).Faithful) →
          (∀ node m, n.monitored.lookup node = some m → n'.monitored.lookup node = some m)
          ∧ (outcome.2.1 = none → ∀ node ∈ call.held id,
            (n'.monitored.lookup node).isSome ↔ Creates call.results node)))
    ∧ (∀ id n texts node, t.client.manager.connection? = some (id, n) → Names texts node →
      n.monitored.lookup node = none → node ∉ claimedOn id t.monitors → ∃ claim, node ∈ claim.nodes
        ∧ (t.client.turn t.now .on (.asking texts)).2.1 = some (.waiting id claim))
    ∧ ∀ call ∈ t.monitors, t.client.Available t.now call →
      t.client.Asks call (t.client.turn t.now .on call) := by
  intro t
  have h := reserves_endure endpoints hazards
  refine ⟨fun id n hn => ⟨h.pending id n hn, h.nodup id n hn⟩, h.disjoint, ?_, ?_, ?_⟩
  · intro call hcall turn outcome id n hn
    obtain ⟨place, hplace⟩ := List.mem_iff_getElem?.1 hcall
    have hfirst := h.perm (perm_place hplace)
    have hturn := t.client.turn_turned t.now turn call (h.known call hcall)
    obtain ⟨n', hn', henters⟩ := hturn.enters hn
    refine ⟨n', hn', fun hend => ?_, henters, fun hfaithful => ?_⟩
    · rw [hend] at hturn
      exact hfirst.returned hturn hn'
    · have happart := apart_endure endpoints hazards hfaithful
      have hanswers : call.Faithful := hfaithful hazards (List.prefix_refl _) call hcall
      have hfree : ∀ node ∈ call.held id, n.monitored.lookup node = none := fun node hnode =>
        happart id n hn node (List.mem_flatMap.2 ⟨call, hcall, hnode⟩)
      refine ⟨fun node m hm => ?_, fun hend node hnode => ?_⟩
      · rw [henters.others hanswers fun hnode => by simp [hfree node hnode] at hm]
        exact hm
      · have hown : call.connection? = some id := by
          by_contra hother
          rw [MonitorCall.held, if_neg hother] at hnode
          exact absurd hnode List.not_mem_nil
        rw [henters.made hend hown, hfree node hnode]
        simp
  · intro id n texts node hc hnamed hmonitored hheld
    exact Client.claims_again h hc hnamed hmonitored hheld
  · intro call hcall havailable
    exact havailable.asks

/-- Two calls that name a node in common; the requests of the first fail. -/
def failureExample : List Hazard :=
  [.connect "opc.tcp://mock:4840", .monitor ["i=1"], .monitor ["i=1", "i=2"], .turn 0 .on, .turn 1 .on,
    .turn 0 .on, .answer 0 (.error .closed)]

theorem reservations_failureExample :
    let t := (start [⟨"opc.tcp://mock:4840", .plain⟩]).endure failureExample
    let first : MonitorCall := .recording ⟨0⟩ [(⟨0, .numeric 1⟩, "i=1")] (.error .closed)
    t.monitors = [first, .waiting ⟨0⟩ [(⟨0, .numeric 2⟩, "i=2")]]
    ∧ (t.client.turn t.now .on first).2.1 = none
    ∧ ∃ n', (t.client.turn t.now .on first).2.2.manager.get? ⟨0⟩ = some n'
      ∧ ⟨0, .numeric 1⟩ ∉ n'.pending ∧ n'.monitored.lookup ⟨0, .numeric 1⟩ = none := by
  refine ⟨rfl, rfl, ?_⟩
  obtain ⟨-, -, hturns, -, -⟩ := reservations [⟨"opc.tcp://mock:4840", .plain⟩] failureExample
  obtain ⟨n', hn', hpending, -, hentries⟩ := hturns _ List.mem_cons_self .on ⟨0⟩ _ rfl
  refine ⟨n', hn', hpending rfl _ List.mem_cons_self, ?_⟩
  have hfaithful : ∀ before, before <+: failureExample →
      ((start [⟨"opc.tcp://mock:4840", .plain⟩]).endure before).Faithful := by
    intro before hbefore
    rw [← List.mem_inits] at hbefore
    revert before
    decide
  obtain ⟨-, hmade⟩ := hentries hfaithful
  have hnone := (hmade rfl ⟨0, .numeric 1⟩ List.mem_cons_self).not.2 fun ⟨r, hr, _⟩ =>
    List.not_mem_nil hr
  exact Option.not_isSome_iff_eq_none.1 hnone

end Traffic

end FieldBridge
