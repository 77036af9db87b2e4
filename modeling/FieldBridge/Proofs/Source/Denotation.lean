/-
  What the texts of monitored nodes denote.

  A node is monitored under the text that asked for it.  From the call the text goes into the claim, with
  the claim to the server and back, into the entry that records the answer, and along another way to whoever
  is told about changes.  Nothing ever compares the two, so a text that got to another node would be
  reported with it for good.

  1. **Texts** — a claim holds each node under a text that names it, and recording an answer about a node
     of the claim enters the node under that text (`Connection.Denotes.record`).  Texts that name different
     nodes differ, so in order they ascend strictly (`Connection.Denotes.ascending`).

  2. **Turns** — whatever a call's turn comes to, entries stay true to their texts as long as the answers
     are about the nodes asked for (`Manager.Denotes.turned`).

  3. **The link** — a server that answers faithfully makes items only for nodes of the claim and tells
     about them in its texts (`Client.made_step`).

  4. **Runs** (`truthful_run`) — the client connects, disconnects, monitors and lets go at any time.
-/

import FieldBridge.Proofs.Source.Reservations
import FieldBridge.Proofs.Source.Spelling
import FieldBridge.Proofs.Source.Teardown
import FieldBridge.Source.Task

namespace FieldBridge

/-! ## Texts -/

/-- The nodes of a claim are what their texts name. -/
def Claim.Denotes (claim : Claim) : Prop := ∀ p ∈ claim, NodeId.parse p.2 = .ok p.1

/-- The monitored nodes are what their texts name, and each is monitored once. -/
structure Connection.Denotes (n : Connection) : Prop where
  texts : ∀ p ∈ n.monitored, NodeId.parse p.2.text = .ok p.1
  nodes : (n.monitored.map (·.1)).Nodup

/-- What a claim calls a node of its own names that node. -/
theorem Claim.Denotes.spelling {claim : Claim} (h : claim.Denotes) {node : NodeId}
    (hnode : node ∈ claim.nodes) : NodeId.parse (Connection.spelling claim node) = .ok node := by
  unfold Connection.spelling
  cases htext : claim.lookup node with
  | none => exact absurd hnode (lookup_eq_none_iff_notMem.1 htext)
  | some text =>
    obtain ⟨before, after, hsplit, -⟩ := List.lookup_eq_some_iff.1 htext
    have hmem : (node, text) ∈ claim := hsplit ▸ List.mem_append_right _ List.mem_cons_self
    exact h (node, text) hmem

namespace Connection

variable {n n' : Connection} {claim : Claim}

/-- A call claims nodes under texts that name them. -/
theorem denotes_claim (n : Connection) (texts : List String) : (n.claim texts).2.1.Denotes :=
  fun p hp => parse?_of_firstText? (n.spells_claim texts p hp)

/-- Entries may go. -/
theorem Denotes.sublist (h : n.Denotes) (hsub : n'.monitored.Sublist n.monitored) : n'.Denotes where
  texts := fun p hp => h.texts p (hsub.subset hp)
  nodes := h.nodes.sublist (hsub.map _)

/-- Only the entries matter. -/
theorem Denotes.congr (h : n.Denotes) (hsame : n'.monitored = n.monitored) : n'.Denotes :=
  h.sublist (hsame ▸ List.Sublist.refl _)

theorem denotes_install (endpoint : Endpoint) : ({ endpoint } : Connection).Denotes where
  texts := fun _ hp => absurd hp List.not_mem_nil
  nodes := List.nodup_nil

/-- A node may be put in under a text that names it. -/
theorem Denotes.put (h : n.Denotes) {node : NodeId} {m : Monitored}
    (hparse : NodeId.parse m.text = .ok node) : (n.put node m).Denotes := by
  have hrest : (n.drop node).Denotes := h.sublist List.filter_sublist
  constructor
  · intro p hp
    rcases List.mem_append.1 hp with hold | hnew
    · exact hrest.texts p hold
    · obtain rfl := List.mem_singleton.1 hnew
      exact hparse
  · show ((n.drop node).monitored ++ [(node, m)] |>.map (·.1)).Nodup
    rw [List.map_append]
    refine List.nodup_append.2 ⟨hrest.nodes, List.nodup_singleton node, fun a ha b hb hab => ?_⟩
    obtain ⟨p, hp, rfl⟩ := List.mem_map.1 ha
    have hne : p.1 ≠ node := of_decide_eq_true (List.mem_filter.1 hp).2
    exact hne (hab.trans (List.mem_singleton.1 hb))

/-- **Recording** answers about nodes of the claim enters them under their texts. -/
theorem Denotes.record (h : n.Denotes) (hclaim : claim.Denotes) {results : List ItemResult}
    (hfaithful : ∀ r ∈ results, r.node ∈ claim.nodes) : (n.record claim results).2.Denotes := by
  induction results generalizing n with
  | nil => exact h
  | cons r rest ih =>
    obtain ⟨hr, hrest⟩ := List.forall_mem_cons.1 hfaithful
    rw [Connection.record]
    dsimp only
    split
    · exact ih (h.put (hclaim.spelling hr)) hrest
    · exact ih h hrest

/-- Different entries have different texts. -/
theorem Denotes.nodup_texts (h : n.Denotes) : (n.monitored.map (·.2.text)).Nodup := by
  refine List.Nodup.map_on (fun p hp q hq heq => ?_) (List.Nodup.of_map _ h.nodes)
  have hnode : p.1 = q.1 := by
    have hp' := h.texts p hp
    rw [heq, h.texts q hq] at hp'
    exact (Except.ok.inj hp').symm
  exact List.inj_on_of_nodup_map h.nodes hp hq hnode

/-- **In order** the texts ascend strictly. -/
theorem Denotes.ascending (h : n.Denotes) : n.monitoredTexts.Pairwise (· < ·) := by
  have hle := @List.pairwise_mergeSort String (fun a b => decide (a ≤ b))
    (fun a b c hab hbc => by
      simp only [decide_eq_true_eq] at hab hbc ⊢
      exact String.le_trans hab hbc)
    (fun a b => by
      simp only [Bool.or_eq_true, decide_eq_true_eq]
      exact String.le_total a b) (n.monitored.map (·.2.text))
  have hnodup : n.monitoredTexts.Nodup := (List.mergeSort_perm _ _).nodup_iff.2 h.nodup_texts
  refine (hle.and hnodup).imp fun {a b} hab => ?_
  obtain ⟨hab, hne⟩ := hab
  exact String.not_le.1 fun hge => hne (String.le_antisymm (of_decide_eq_true hab) hge)

end Connection

/-- A reading of a text that names a node does not fail for the text. -/
theorem Reading.attempt_ne_invalidNode {σ : Type} (session : Session σ) (connected : Bool) {text : String}
    {node : NodeId} (hparse : NodeId.parse text = .ok node) (attributes : List Attribute) (s : σ)
    (text' : String) (cause : NodeId.ParseError) :
    (Reading.attempt session connected text attributes s).2.1 ≠ .error (.invalidNode text' cause) := by
  have hcomplete : ∀ (r : Reading) time answer,
      (r.complete time answer).2 ≠ .error (.invalidNode text' cause) := by
    intro r time answer
    cases answer <;> simp [Reading.complete]
  cases connected with
  | false => simp [Reading.attempt, Reading.plan]
  | true =>
    have hplan : Reading.plan true text attributes
        = .ok ⟨text, node, addressed attributes, attributes.contains .timestamp⟩ := by
      simp [Reading.plan, hparse]
    rw [Reading.attempt, hplan]
    exact hcomplete _ _ _

/-! ## Turns -/

/-- On every connection the monitored nodes are what their texts name. -/
def Manager.Denotes (m : Manager) : Prop := ∀ id n, m.get? id = some n → n.Denotes

namespace Manager

variable {m m' : Manager} {id : ConnectionId} {f : Connection → Connection}

theorem Denotes.congr (h : m.Denotes) (hsame : ∀ id, m'.get? id = m.get? id) : m'.Denotes :=
  fun id n hn => h id n ((hsame id).symm.trans hn)

/-- One connection changes. -/
theorem Denotes.modify (h : m.Denotes) (hf : ∀ n, m.get? id = some n → n.Denotes → (f n).Denotes) :
    (m.modify id f).Denotes := by
  intro other n' hn'
  obtain ⟨n, hn, rfl⟩ := get?_modify_eq_some hn'
  split
  · rename_i heq
    exact hf n (heq ▸ hn) (h other n hn)
  · exact h other n hn

/-- A new connection has nothing to name. -/
theorem Denotes.install (h : m.Denotes) (endpoint : Endpoint) : (m.install endpoint).Denotes := by
  intro id n hn
  by_cases hid : id = ⟨m.connections.length⟩
  · subst hid
    have hnew := (connection?_eq_some.1 (m.connection?_install endpoint)).2
    obtain rfl : n = { endpoint } := Option.some.inj (hn.symm.trans hnew)
    exact Connection.denotes_install endpoint
  · exact h id n ((get?_install_of_ne endpoint hid).symm.trans hn)

/-- **A turn** enters the answers under the texts of the claim, and a call that goes on has a claim whose
texts name its nodes. -/
theorem Denotes.turned (h : m.Denotes) {call : MonitorCall} {next : Option MonitorCall}
    (hturn : m.Turned call next m') (hclaim : call.claim.Denotes) (hfaithful : call.Faithful) :
    m'.Denotes ∧ ∀ next' ∈ next, next'.claim.Denotes := by
  cases hturn with
  | lost texts => exact ⟨h, fun _ hnext => absurd hnext (by simp)⟩
  | @claimed id n texts hc =>
    have hn := (connection?_eq_some.1 hc).2
    refine ⟨h.modify fun _ _ _ => (h id n hn).congr rfl, fun next' hnext => ?_⟩
    split at hnext
    · exact absurd hnext (by simp)
    · obtain rfl := Option.some.inj hnext
      exact n.denotes_claim texts
  | @keeps _ next id f hown hnext hsame hf =>
    refine ⟨h.modify fun n _ hn => ?_, fun next' hnext' => ?_⟩
    · exact hn.congr (hf n).2
    · obtain rfl := Option.some.inj hnext'
      rw [hsame]
      exact hclaim
  | @returns _ id f hown hf =>
    refine ⟨h.modify fun n hget hn => ?_, fun _ hnext => absurd hnext (by simp)⟩
    exact (hn.record hclaim hfaithful).congr (hf n hget).2

end Manager

/-! ## The link -/

/-- All items on a server are told about under texts that name their nodes. -/
def Server.Denotes (s : Server) : Prop :=
  ∀ i ∈ s.items, NodeId.parse (i.observer.spelling i.node) = .ok i.node

/-- The link fails as little as before, and no items come up on it but those for nodes of a claim, whose
observers go by the texts of the claim. -/
structure Link.Makes (claim : Claim) (l l' : Link) : Prop where
  faults : l'.faults = l.faults
  items : ∀ i ∈ l'.server.items, i ∈ l.server.items ∨ i.node ∈ claim.nodes ∧ i.observer = ⟨claim⟩

namespace Link

variable {claim : Claim} {l l' l'' : Link}

/-- No item comes up. -/
theorem Makes.of_subset (hfaults : l'.faults = l.faults)
    (hitems : ∀ i ∈ l'.server.items, i ∈ l.server.items) : Makes claim l l' where
  faults := hfaults
  items := fun i hi => .inl (hitems i hi)

theorem Makes.refl (l : Link) : Makes claim l l := .of_subset rfl fun _ hi => hi

theorem Makes.trans (h : Makes claim l l') (h' : Makes claim l' l'') : Makes claim l l'' where
  faults := h'.faults.trans h.faults
  items := fun i hi => (h'.items i hi).elim (h.items i) .inr

/-- **Items** for the nodes of a claim are told about under texts that name them. -/
theorem Makes.denotes (h : Makes claim l l') (hclaim : claim.Denotes) (hserver : l.server.Denotes) :
    l'.server.Denotes := by
  intro i hi
  rcases h.items i hi with hold | ⟨hnode, hobserver⟩
  · exact hserver i hold
  · rw [hobserver]
    exact hclaim.spelling hnode

theorem makes_beginSubscription (l : Link) : Makes claim l l.beginSubscription.2 := by
  have hitems : l.server.beginSubscription.2.items = l.server.items := by
    unfold Server.beginSubscription
    split <;> rfl
  unfold beginSubscription
  split
  · exact .refl l
  · exact .of_subset rfl fun _ hi => hitems ▸ hi

theorem makes_deleteSubscription (l : Link) (id : SubscriptionId) :
    Makes claim l (l.deleteSubscription id).2 := by
  have hitems : ∀ i ∈ (l.server.deleteSubscription id).2.items, i ∈ l.server.items := by
    unfold Server.deleteSubscription
    split
    · exact fun _ hi => hi
    · exact fun _ hi => (List.mem_filter.1 hi).1
  unfold deleteSubscription
  split
  · exact .refl l
  · exact .of_subset rfl hitems

theorem makes_deleteEach (session : ConnectionId) (ids : List SubscriptionId) (l : Link) :
    Makes claim l (Manager.deleteEach Link.transport session l ids).2 := by
  induction ids generalizing l with
  | nil => exact .refl l
  | cons id rest ih => exact (makes_deleteSubscription l id).trans (ih _)

end Link

/-- Closing takes items out. -/
theorem Manager.makes_closeCurrent (m : Manager) (l : Link) (claim : Claim) :
    Link.Makes claim l (m.closeCurrent Link.transport l).2.2 := by
  unfold closeCurrent
  split
  · exact .refl l
  · rename_i session _ _
    have hclose : ∀ l' : Link, Link.Makes claim l' l'.close.2 := fun _ => .of_subset rfl fun _ hi => hi
    exact (Link.makes_deleteEach session _ l).trans (hclose _)

namespace Client

variable {c : Client} {call : MonitorCall}

/-- Connecting makes no items. -/
theorem makes_connect (c : Client) (url : String) (claim : Claim) :
    Link.Makes claim c.link (c.connect url).2.2.link := by
  have hclosed := c.manager.makes_closeCurrent c.link claim
  rcases connect_eq rfl url with hend | ⟨endpoint, hend⟩
  · rw [hend]
    exact hclosed
  · rw [hend]
    exact hclosed.trans (.of_subset rfl fun _ hi => hi)

/-- A call without answers has no wrong ones. -/
theorem faithful_of_nil (h : call.results = []) : call.Faithful := by
  unfold MonitorCall.Faithful
  rw [h]
  exact List.forall_mem_nil _

/-- A call that goes on without answers. -/
theorem faithful_next (h : call.results = []) : ∀ next ∈ some call, next.Faithful := by
  intro next hnext
  obtain rfl := Option.some.inj hnext
  exact faithful_of_nil h

/-- A call gets items for nodes of its claim only, and is answered about them only. -/
theorem made_createItems (hfaults : c.link.faults = {}) (id : ConnectionId) (claim : Claim)
    (subscription : SubscriptionId) :
    Link.Makes claim c.link (c.createItems id claim subscription).2.2.link
      ∧ ∀ next ∈ (c.createItems id claim subscription).2.1, next.Faithful := by
  cases hclosed : c.link.server.closed with
  | true =>
    obtain ⟨link, nextHandle, hanswer, hsame, -⟩ := createItems_closed hfaults hclosed id claim subscription
    rw [hanswer]
    exact ⟨.of_subset hsame.faults fun i hi => hsame.items ▸ hi, faithful_next rfl⟩
  | false =>
    obtain ⟨results, hanswer, hnodes, -, hafter, hserver⟩ := Link.createItems_faultless hfaults hclosed
      subscription (Connection.requests claim c.nextHandle) ⟨claim⟩
    rw [Connection.nodes_requests] at hnodes
    have hmem : ∀ r ∈ results, r.node ∈ claim.nodes := fun r hr => hnodes ▸ List.mem_map_of_mem hr
    have hcall : (c.createItems id claim subscription).2.1 = some (.recording id claim
        (c.link.createItems subscription (Connection.requests claim c.nextHandle) ⟨claim⟩).1) := rfl
    refine ⟨⟨hafter.trans hfaults.symm, fun i hi => ?_⟩, fun next hnext => ?_⟩
    · have hitems : (c.createItems id claim subscription).2.2.link.server.items
          = c.link.server.items ++ Server.made subscription ⟨claim⟩ results :=
        congrArg Server.items hserver
      rw [hitems] at hi
      rcases List.mem_append.1 hi with hold | hnew
      · exact .inl hold
      · obtain ⟨r, hr, rfl⟩ := List.mem_map.1 hnew
        exact .inr ⟨hmem r (List.mem_filter.1 hr).1, rfl⟩
    · rw [hcall, hanswer] at hnext
      obtain rfl := Option.some.inj hnext
      exact hmem

/-- The same when its subscription has just been created. -/
theorem made_opened (hfaults : c.link.faults = {}) (id : ConnectionId) (claim : Claim) :
    Link.Makes claim c.link (c.opened id claim).2.2.link
      ∧ ∀ next ∈ (c.opened id claim).2.1, next.Faithful := by
  have hsubscribed : Link.Makes claim c.link (c.subscribed id).link := .of_subset rfl fun _ hi => hi
  obtain ⟨hmakes, hnext⟩ := (c.subscribed id).made_createItems hfaults id claim c.link.endSubscription.1
  exact ⟨hsubscribed.trans hmakes, hnext⟩

/-- **A step** of a call makes items for nodes of its claim only, and what it is answered is about them. -/
theorem made_step (hfaults : c.link.faults = {}) (now : Nat) (call : MonitorCall) :
    Link.Makes call.claim c.link (c.step now call).2.2.link
      ∧ ∀ next ∈ (c.step now call).2.1, next.Faithful := by
  cases call with
  | asking texts =>
    simp only [Client.step, Client.ask]
    split
    · exact ⟨.refl _, fun _ hnext => absurd hnext (by simp)⟩
    · refine ⟨.refl _, ?_⟩
      dsimp only
      split
      · exact fun _ hnext => absurd hnext (by simp)
      · exact faithful_next rfl
  | waiting id claim =>
    simp only [Client.step, Client.subscribe]
    split
    · exact ⟨.refl _, fun _ hnext => absurd hnext (by simp)⟩
    · split
      · exact made_createItems hfaults id claim _
      · exact ⟨.refl _, faithful_next rfl⟩
      · have hbegun : Link.Makes claim c.link c.link.beginSubscription.2 := c.link.makes_beginSubscription
        split
        · rename_i hanswer
          rw [hanswer] at hbegun
          exact ⟨hbegun, fun _ hnext => absurd hnext (by simp)⟩
        · rename_i link hanswer
          rw [hanswer] at hbegun
          obtain ⟨hmakes, hnext⟩ :=
            made_opened (c := { c with link }) (hbegun.faults.trans hfaults) id claim
          exact ⟨hbegun.trans hmakes, hnext⟩
        · rename_i hanswer
          rw [hanswer] at hbegun
          exact ⟨hbegun, faithful_next rfl⟩
  | opening id claim due =>
    simp only [Client.step]
    split
    · exact made_opened hfaults id claim
    · exact ⟨.refl _, faithful_next rfl⟩
  | recording id claim answer =>
    simp only [Client.step]
    rw [c.link_conclude id claim answer]
    exact ⟨.refl _, fun _ hnext => absurd hnext (by simp)⟩

/-- Letting go takes entries and items out. -/
theorem denotes_finishUnmonitor (hfaults : c.link.faults = {}) (h : c.manager.Denotes) (own : UnmonitorCall)
    (claim : Claim) : (c.finishUnmonitor own).2.manager.Denotes
      ∧ Link.Makes claim c.link (c.finishUnmonitor own).2.link := by
  cases hget : c.manager.get? own.connection with
  | none =>
    have hend : c.finishUnmonitor own = ([], c) := by simp [Client.finishUnmonitor, hget]
    rw [hend]
    exact ⟨h, .refl _⟩
  | some n =>
    rcases c.finishUnmonitor_cases hfaults own hget with ⟨-, hend⟩ | ⟨-, hend⟩ | ⟨-, -, hend⟩
    · rw [hend]
      exact ⟨h, .refl _⟩
    · rw [hend]
      exact ⟨h, .refl _⟩
    · rw [hend]
      refine ⟨?_, .of_subset rfl fun _ hi => (List.mem_filter.1 hi).1⟩
      exact h.modify fun _ _ _ => (h own.connection n hget).sublist List.filter_sublist

end Client

/-! ## Runs -/

namespace Traffic

variable {t : Traffic}

/-- An event that waits for nothing: the client connects and disconnects whatever calls are in progress. -/
def Event.atOnce (t : Traffic) : Event → Hazard
  | .connect url => .connect url
  | .disconnect => .disconnect
  | .monitor texts => .monitor texts
  | .monitorOn place => .turn place .on
  | .unmonitor texts => .unmonitor texts
  | .unmonitorOn place => .unmonitorOn place
  | .reject node => .link (t.set (·.reject node)).client.link
  | .allow node => .link (t.set (·.allow node)).client.link
  | .delaySubscriptions ms => .link (t.set fun s => { s with subscriptionDelay := ms }).client.link
  | .failConnect fail => .link (t.set fun s => { s with failConnect := fail }).client.link
  | .failDiscovery fail => .link (t.set fun s => { s with failDiscovery := fail }).client.link
  | .pass ms => .pass ms

/-- A run of such events. -/
def runAtOnce (t : Traffic) (events : List Event) : Traffic :=
  events.foldl (fun t e => t.face (e.atOnce t)) t

/-- Every text names the node that it goes with, in entries, in claims and in items. -/
structure Denotes (t : Traffic) : Prop where
  faultless : t.client.link.faults = {}
  books : Reserves t.client.manager t.monitors
  entries : t.client.manager.Denotes
  calls : ∀ call ∈ t.monitors, call.claim.Denotes ∧ call.Faithful
  items : t.client.link.server.Denotes

theorem denotes_start (endpoints : List Endpoint) : (start endpoints).Denotes where
  faultless := rfl
  books := reserves_endure endpoints []
  entries := fun id n hn => absurd hn (by simp [start, Manager.get?])
  calls := fun call hcall => absurd hcall List.not_mem_nil
  items := fun i hi => absurd hi List.not_mem_nil

/-- A call that comes in has neither claim nor answers. -/
theorem denotes_asking (texts : List String) :
    (MonitorCall.asking texts).claim.Denotes ∧ (MonitorCall.asking texts).Faithful :=
  ⟨fun _ hp => absurd hp List.not_mem_nil, Client.faithful_of_nil rfl⟩

/-- Anything may happen to the client that makes no items and keeps the entries true. -/
theorem Denotes.progress (h : t.Denotes) {c : Client} (hbooks : Reserves c.manager t.monitors)
    (hentries : c.manager.Denotes) (hlink : Link.Makes [] t.client.link c.link) :
    Denotes { t with client := c } where
  faultless := hlink.faults.trans h.faultless
  books := hbooks
  entries := hentries
  calls := h.calls
  items := hlink.denotes (fun _ hp => absurd hp List.not_mem_nil) h.items

/-- The settings of the server do not matter. -/
theorem Denotes.set (h : t.Denotes) {f : Server → Server} (hitems : ∀ s, (f s).items = s.items) :
    (t.face (.link (t.set f).client.link)).Denotes :=
  h.progress h.books h.entries (.of_subset rfl fun _ hi => hitems t.client.link.server ▸ hi)

/-- The turn of a call. -/
theorem Denotes.turn (h : t.Denotes) {place : Nat} {call : MonitorCall}
    (hcall : t.monitors[place]? = some call) :
    let progress := t.client.step t.now call
    Reserves progress.2.2.manager (t.replace place progress.2.1).monitors →
      Denotes { t.replace place progress.2.1 with client := progress.2.2 } := by
  intro progress hbooks
  have hmem : call ∈ t.monitors := List.mem_of_getElem? hcall
  obtain ⟨hclaim, hfaithful⟩ := h.calls call hmem
  obtain ⟨hentries, hclaims⟩ :=
    h.entries.turned (t.client.turn_turned t.now .on call (h.books.known call hmem)) hclaim hfaithful
  obtain ⟨hmakes, hanswers⟩ := Client.made_step h.faultless t.now call
  refine ⟨hmakes.faults.trans h.faultless, hbooks, hentries, fun other hother => ?_,
    hmakes.denotes hclaim h.items⟩
  rcases List.mem_append.1 hother with hother | hafter
  · rcases List.mem_append.1 hother with hbefore | hnext
    · exact h.calls other (List.mem_of_mem_take hbefore)
    · have hnext' := Option.mem_toList.1 hnext
      exact ⟨hclaims other hnext', hanswers other hnext'⟩
  · exact h.calls other (List.mem_of_mem_drop hafter)

/-- **Step**: whatever happens, texts name the nodes that they go with. -/
theorem Denotes.face (h : t.Denotes) (e : Event) : (t.face (e.atOnce t)).Denotes := by
  have hbooks := h.books.faced (t.faced (e.atOnce t) h.books.known)
  cases e with
  | connect url =>
    refine h.progress hbooks ?_ (t.client.makes_connect url [])
    rcases t.client.manager_connect url with hsame | ⟨m, endpoint, hsame, hend⟩
    · exact h.entries.congr hsame
    · rw [hend]
      exact (h.entries.congr hsame).install endpoint
  | disconnect =>
    have hsame := t.client.manager.get?_closeCurrent Link.transport t.client.link
    exact h.progress hbooks (h.entries.congr hsame) (t.client.manager.makes_closeCurrent t.client.link [])
  | monitor texts =>
    refine ⟨h.faultless, hbooks, h.entries, fun call hcall => ?_, h.items⟩
    rcases List.mem_append.1 hcall with hcall | hnew
    · exact h.calls call hcall
    · obtain rfl := List.mem_singleton.1 hnew
      exact denotes_asking texts
  | monitorOn place =>
    simp only [Event.atOnce, Traffic.face] at hbooks ⊢
    split
    · rename_i call hcall
      rw [hcall] at hbooks
      exact h.turn hcall hbooks
    · exact h
  | unmonitor texts => exact { h with }
  | unmonitorOn place =>
    simp only [Event.atOnce, Traffic.face, Traffic.step] at hbooks ⊢
    split
    · rename_i own hown
      rw [hown] at hbooks
      obtain ⟨hentries, hmakes⟩ := Client.denotes_finishUnmonitor h.faultless h.entries own []
      exact { h.progress hbooks hentries hmakes with }
    · exact h
  | reject node => exact h.set fun _ => rfl
  | allow node => exact h.set fun _ => rfl
  | delaySubscriptions ms => exact h.set fun _ => rfl
  | failConnect fail => exact h.set fun _ => rfl
  | failDiscovery fail => exact h.set fun _ => rfl
  | pass ms => exact { h with }

theorem Denotes.runAtOnce (h : t.Denotes) (events : List Event) : (t.runAtOnce events).Denotes := by
  induction events generalizing t with
  | nil => exact h
  | cons e rest ih => exact ih (h.face e)

end Traffic

/-- What a client lists and tells names the nodes that it is about. -/
structure Client.Truthful (c : Client) : Prop where
  /-- The text of every entry of every connection names its node. -/
  entries : ∀ id n, c.manager.get? id = some n → ∀ p ∈ n.monitored, NodeId.parse p.2.text = .ok p.1
  /-- The monitored nodes are listed in ascending order, none of them twice. -/
  ascending : c.monitoredTexts.Pairwise (· < ·)
  /-- A change of a node is told under a text that names it. -/
  changes : ∀ node value, ∀ change ∈ c.link.server.changes node value, NodeId.parse change.node = .ok node
  /-- When its naming attributes are read again, the text is a node id, whatever the session says and
  whether or not there still is a connection. -/
  readings : ∀ node value, ∀ change ∈ c.link.server.changes node value,
    ∀ (σ : Type) (session : Session σ) (connected : Bool) (s : σ) (text : String)
      (cause : NodeId.ParseError), (Reading.attempt session connected (ReadTask.ofChange change).node
        (ReadTask.ofChange change).attributes s).2.1 ≠ .error (.invalidNode text cause)

namespace Traffic

theorem Denotes.truthful {t : Traffic} (h : t.Denotes) : t.client.Truthful := by
  have hchanges : ∀ node value, ∀ change ∈ t.client.link.server.changes node value,
      NodeId.parse change.node = .ok node := by
    intro node value change hchange
    obtain ⟨i, hi, rfl⟩ := List.mem_map.1 hchange
    obtain ⟨hitem, hnode⟩ := List.mem_filter.1 hi
    obtain rfl : i.node = node := of_decide_eq_true hnode
    exact h.items i hitem
  refine ⟨fun id n hn => (h.entries id n hn).texts, ?_, hchanges, ?_⟩
  · unfold Client.monitoredTexts
    split
    · exact List.Pairwise.nil
    · rename_i id n hc
      exact (h.entries id n (Manager.connection?_eq_some.1 hc).2).ascending
  · intro node value change hchange σ session connected s text cause
    have hparse := hchanges node value change hchange
    exact Reading.attempt_ne_invalidNode session connected hparse _ s text cause

/-- **Runs**: in whatever way calls, connects and disconnects come between one another, a node is listed and
told about under a text that names it. -/
theorem truthful_run (endpoints : List Endpoint) (events : List Event) :
    ((start endpoints).runAtOnce events).client.Truthful :=
  ((denotes_start endpoints).runAtOnce events).truthful

/-- Two calls name a node in two ways, and the client connects again while the first is in progress. -/
def reconnectExample : List Event :=
  [.connect "opc.tcp://mock:4840", .monitor ["ns=0;i=1", "i=2", "?"], .monitorOn 0,
    .connect "opc.tcp://mock:4840", .monitor ["i=2", " i=1"], .monitorOn 1, .monitorOn 1, .monitorOn 1,
    .monitorOn 0, .monitorOn 0]

/-- Each connection lists the nodes in the words of its own call. -/
example :
    let t := (start [⟨"opc.tcp://mock:4840", .plain⟩]).runAtOnce reconnectExample
    t.monitors.length = 0 ∧ t.client.manager.connections.map (fun n => n.monitored.map (·.2.text))
      = [["ns=0;i=1", "i=2"], ["i=2", " i=1"]] := by
  decide +kernel

end Traffic

end FieldBridge
