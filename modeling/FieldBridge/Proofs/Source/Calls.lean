/-
  Calls keep the books.

  1. **Monitor calls** — each step from one wait to the next keeps the invariant (`Inv.step`): claiming
     takes free nodes, a subscription comes into being before there are items, items come with the entries
     that their call is about to make, and recording makes them.

  2. **Unmonitor calls** — the items of the nodes named go with their entries (`finishUnmonitor_cases`,
     `Inv.finishUnmonitor`).  A call whose connection is no longer current finds none of its items and
     deletes nothing.
-/

import FieldBridge.Proofs.Source.Books

namespace FieldBridge.Client

variable {c : Client} {calls rest : List MonitorCall} {call : MonitorCall}
  {created : List (ConnectionId × SubscriptionId)} {id : ConnectionId} {n : Connection}

/-! ## Monitor calls -/

/-- A step that adds no subscription has no credit. -/
theorem Inv.credit_same (h : Inv c calls created) {before after : Server}
    (hsame : after.subscriptions = before.subscriptions) :
    Inv c calls (created ++ call.credit before after) := by
  rw [MonitorCall.credit_same call hsame, List.append_nil]
  exact h

/-- The connection of a call that has begun is the current one. -/
theorem Inv.current (h : Inv c (call :: rest) created) (hown : call.connection? = some id) :
    ∃ n, c.manager.connection? = some (id, n) := by
  cases hc : c.manager.connection? with
  | none =>
    obtain ⟨-, -, hcalls⟩ := h.disconnected hc
    obtain ⟨texts, rfl⟩ := hcalls call List.mem_cons_self
    exact absurd hown (by simp [MonitorCall.connection?])
  | some found =>
    obtain ⟨id', n⟩ := found
    -- whatever a call waits for, it knows its connection
    have hfits := (h.connected id' n hc).fits call List.mem_cons_self
    refine ⟨n, ?_⟩
    cases call with
    | asking texts => exact absurd hown (by simp [MonitorCall.connection?])
    | waiting own claim =>
      obtain rfl : own = id := Option.some.inj hown
      rw [show own = id' from hfits]
    | opening own claim due =>
      obtain rfl : own = id := Option.some.inj hown
      rw [hfits.1]
    | recording own claim answer =>
      obtain rfl : own = id := Option.some.inj hown
      rw [hfits.1]

/-- A call that has begun is on the current connection. -/
theorem Inv.own_connection {own : ConnectionId} (h : Inv c (call :: rest) created)
    (hc : c.manager.connection? = some (id, n)) (hown : call.connection? = some own) : own = id := by
  obtain ⟨n', hc'⟩ := h.current hown
  exact congrArg Prod.fst (Option.some.inj (hc'.symm.trans hc))

/-- A call begins. -/
theorem Inv.ask {texts : List String} (h : Inv c (.asking texts :: rest) created) :
    Inv (c.ask texts).2.2 ((c.ask texts).2.1.toList ++ rest) created := by
  have hrest := h.drop rfl rfl rfl
  unfold Client.ask
  cases hc : c.manager.connection? with
  | none => exact hrest
  | some found =>
    obtain ⟨id, n⟩ := found
    have hwait : Inv (c.modify id fun _ => (n.claim texts).2.2)
        (.waiting id (n.claim texts).2.1 :: rest) created :=
      hrest.progress hc rfl hrest.faultless (hrest.later rfl (Nat.le_refl _))
        ((hrest.connected id n hc).claim texts) fun _ hready => hready
    by_cases hempty : (n.claim texts).2.1 = []
    · simp only [hempty, List.isEmpty_nil, if_pos]
      rw [hempty] at hwait
      exact hwait.drop rfl rfl rfl
    · have hfull : (n.claim texts).2.1.isEmpty = false := by simpa using hempty
      simp only [hfull]
      exact hwait

/-- A call asks for its items. -/
theorem Inv.createItems {claim : Claim} {s : SubscriptionId}
    (h : Inv c (.waiting id claim :: rest) created) (hc : c.manager.connection? = some (id, n))
    (hs : n.subscription = .ready s) : ∃ answer,
      (c.createItems id claim s).2.1 = some (.recording id claim answer)
      ∧ (c.createItems id claim s).2.2.link.server.subscriptions = c.link.server.subscriptions
      ∧ Inv (c.createItems id claim s).2.2 (.recording id claim answer :: rest) created := by
  have hbooks := h.connected id n hc
  obtain ⟨results, hanswer, hnodes, hnumbers, hfaults, hserver⟩ := Link.createItems_faultless
    h.faultless hbooks.isOpen s (Connection.requests claim c.nextHandle) ⟨claim⟩
  rw [Connection.nodes_requests] at hnodes
  have hcall : (c.createItems id claim s).2.1 = some (.recording id claim (c.link.createItems s
      (Connection.requests claim c.nextHandle) ⟨claim⟩).1) := rfl
  have hlink : (c.createItems id claim s).2.2.link = (c.link.createItems s
      (Connection.requests claim c.nextHandle) ⟨claim⟩).2 := rfl
  rw [hanswer] at hcall
  rw [← hlink] at hserver hfaults
  have hitems : (c.createItems id claim s).2.2.link.server.items
      = c.link.server.items ++ Server.made s ⟨claim⟩ results := by rw [hserver]
  have hnumbered : (c.createItems id claim s).2.2.link.server.numbered = c.link.server.numbered
      + (Connection.requests claim c.nextHandle).length := by rw [hserver]
  have hsubscriptions : (c.createItems id claim s).2.2.link.server.subscriptions
      = c.link.server.subscriptions := by rw [hserver]
  have hopen : (c.createItems id claim s).2.2.link.server.closed = c.link.server.closed := by
    rw [hserver]
  refine ⟨.ok results, hcall, hsubscriptions, ?_⟩
  refine h.progress hc (c.manager.modify_self id).symm hfaults
    (Server.Later.made h.numbered h.ids hnumbers hnumbered hitems) ?_ fun _ hready => hready
  have hholds := hbooks.holds
  rw [hs] at hholds
  obtain ⟨honly, hplaced⟩ := hholds
  exact {
    isOpen := hopen.trans hbooks.isOpen
    holds := by
      rw [hs]
      refine ⟨hsubscriptions.trans honly, fun i hi => ?_⟩
      rw [hitems] at hi
      rcases List.mem_append.1 hi with hold | hnew
      · exact hplaced i hold
      · obtain ⟨r, -, rfl⟩ := List.mem_map.1 hnew
        rfl
    entries := by
      have hold : (n.monitored ++ rest.flatMap (·.entries)).Perm
          (c.link.server.items.map (·.entry)) := hbooks.entries
      have hswap : (Connection.entries claim results ++ rest.flatMap (·.entries)).Perm
          (rest.flatMap (·.entries) ++ Connection.entries claim results) := List.perm_append_comm
      rw [hitems, List.map_append, entry_made]
      refine (hswap.append_left n.monitored).trans ?_
      rw [← List.append_assoc]
      exact hold.append_right _
    pending := hbooks.pending
    nodup := hbooks.nodup
    fits := by
      have hrest := (List.forall_mem_cons.1 hbooks.fits).2
      exact List.forall_mem_cons.2 ⟨⟨rfl, ⟨s, hs⟩, results, rfl, hnodes⟩, hrest⟩
    openings := hbooks.openings }

/-- Recording answers is none of the server's business. -/
theorem link_conclude (c : Client) (id : ConnectionId) (claim : Claim)
    (answer : Except TransportError (List ItemResult)) :
    (c.conclude id claim answer).2.link = c.link := by
  cases answer with
  | error e => rfl
  | ok results =>
    simp only [Client.conclude]
    split <;> rfl

/-- A call records the answers. -/
theorem Inv.conclude {claim : Claim} {answer : Except TransportError (List ItemResult)}
    (h : Inv c (.recording id claim answer :: rest) created) :
    Inv (c.conclude id claim answer).2 rest created := by
  obtain ⟨n, hc⟩ := h.current rfl
  have hbooks := h.connected id n hc
  have hget := (Manager.connection?_eq_some.1 hc).2
  obtain ⟨-, hready, results, rfl, hnodes⟩ := hbooks.fits _ List.mem_cons_self
  have hnodup : (n.monitored.map (·.1) ++ (claim.nodes ++ rest.flatMap (·.claim.nodes))).Nodup :=
    hbooks.nodup
  have hrecord : (n.record claim results).2
      = { n with monitored := n.monitored ++ Connection.entries claim results } := by
    refine Connection.record_eq ?_
    rw [hnodes]
    exact hnodup.sublist ((List.sublist_append_left _ _).append_left _)
  have hclient : (c.conclude id claim (.ok results)).2
      = c.modify id fun _ => (n.record claim results).2.release claim := by
    simp [Client.conclude, hget]
  rw [hclient, hrecord]
  refine h.progress hc rfl h.faultless (h.later rfl (Nat.le_refl _)) ?_ fun _ hready => hready
  exact {
    isOpen := hbooks.isOpen
    holds := hbooks.holds
    entries := by
      have hold : (n.monitored ++ (Connection.entries claim results
          ++ rest.flatMap (·.entries))).Perm (c.link.server.items.map (·.entry)) := hbooks.entries
      rw [← List.append_assoc] at hold
      exact hold
    pending := by
      have hdisjoint := (List.nodup_append.1 hnodup).2.1
      exact Connection.pending_release hbooks.pending hdisjoint
    nodup := by
      refine hnodup.sublist ?_
      show List.Sublist ((n.monitored ++ Connection.entries claim results).map (·.1) ++ _) _
      rw [List.map_append, List.append_assoc]
      refine List.Sublist.append_left (List.Sublist.append_right ?_ _) _
      rw [← hnodes]
      exact Connection.nodes_entries claim results
    fits := (List.forall_mem_cons.1 hbooks.fits).2
    openings := by
      have hold := hbooks.openings
      rw [List.countP_cons_of_neg (by simp [MonitorCall.isOpening])] at hold
      exact hold }

/-- Before there is a subscription nothing is on the server. -/
theorem Inv.empty (h : Inv c calls created) (hc : c.manager.connection? = some (id, n))
    (hn : ∀ s, n.subscription ≠ .ready s) :
    c.link.server.subscriptions = [] ∧ c.link.server.items = [] := by
  have hholds := (h.connected id n hc).holds
  cases hs : n.subscription with
  | absent =>
    rw [hs] at hholds
    exact hholds
  | opening =>
    rw [hs] at hholds
    exact hholds
  | ready s => exact absurd hs (hn s)

/-- Where no other call is creating the subscription, at most this one is. -/
theorem openings_of_idle {id : ConnectionId} (call : MonitorCall)
    (hrest : ∀ other ∈ rest, ∀ s, other.Fits id s ∧ other.entries = [] ∧ other.isOpening = false) :
    (call :: rest).countP (·.isOpening) = if call.isOpening then 1 else 0 := by
  have hothers : rest.countP (·.isOpening) = 0 := List.countP_eq_zero.2 fun other hother => by
    simp [(hrest other hother .absent).2.2]
  rw [List.countP_cons, hothers, Nat.zero_add]

/-- The client whose connection has got the subscription that was being created. -/
def subscribed (c : Client) (id : ConnectionId) : Client :=
  { c with link := c.link.endSubscription.2 }.modify id
    fun n => { n with subscription := .ready c.link.endSubscription.1 }

/-- The subscription is there, and the call waits no longer. -/
theorem Inv.subscribed {claim : Claim} (h : Inv c (call :: rest) created)
    (hc : c.manager.connection? = some (id, n)) (hn : ∀ s, n.subscription ≠ .ready s)
    (hclaim : call.claim = claim) (hentries : call.entries = [])
    (hrest : ∀ other ∈ rest, ∀ s, other.Fits id s ∧ other.entries = [] ∧ other.isOpening = false) :
    Inv (c.subscribed id) (.waiting id claim :: rest) created := by
  obtain ⟨hnone, hitems⟩ := h.empty hc hn
  have hbooks := h.connected id n hc
  refine h.progress hc rfl h.faultless (h.later rfl (Nat.le_succ _)) ?_ fun s hs => absurd hs (hn s)
  exact {
    isOpen := hbooks.isOpen
    holds := by
      refine ⟨?_, fun i hi => ?_⟩
      · show c.link.server.subscriptions ++ [c.link.endSubscription.1] = [c.link.endSubscription.1]
        rw [hnone]
        rfl
      · have hi' : i ∈ c.link.server.items := hi
        exact absurd (hitems ▸ hi') List.not_mem_nil
    entries := by
      have hold := hbooks.entries
      rw [List.flatMap_cons, hentries] at hold
      exact hold
    pending := by
      have hold := hbooks.pending
      rw [List.flatMap_cons, hclaim] at hold
      exact hold
    nodup := by
      have hold := hbooks.nodup
      rw [List.flatMap_cons, hclaim] at hold
      exact hold
    fits := List.forall_mem_cons.2 ⟨rfl, fun other hother => (hrest other hother _).1⟩
    openings := openings_of_idle _ hrest }

/-- The first subscription of a connection is credited to it. -/
theorem Inv.credited {s : SubscriptionId} (h : Inv c calls created)
    (hc : c.manager.connection? = some (id, n)) (hs : n.subscription = .ready s)
    (hfresh : id ∉ created.map (·.1)) : Inv c calls (created ++ [(id, s)]) := by
  refine { h with created_once := ?_, created_known := ?_, created_ready := ?_ }
  · rw [List.map_append, List.nodup_append]
    refine ⟨h.created_once, by simp, fun a ha b hb hab => ?_⟩
    obtain rfl : b = id := by simpa using hb
    exact hfresh (hab ▸ ha)
  · intro p hp
    rcases List.mem_append.1 hp with hold | hnew
    · exact h.created_known p hold
    · obtain rfl : p = (id, s) := by simpa using hnew
      have hget := (Manager.connection?_eq_some.1 hc).2
      exact (List.getElem?_eq_some_iff.1 hget).1
  · intro id' n' hn' _
    obtain ⟨rfl, rfl⟩ : id = id' ∧ n = n' := by
      simpa using hc.symm.trans hn'
    exact ⟨s, hs⟩

/-- A subscription comes into being, as long as there is none and no other call is creating one. -/
theorem Inv.opened {claim : Claim} (h : Inv c (call :: rest) created)
    (hc : c.manager.connection? = some (id, n)) (hn : ∀ s, n.subscription ≠ .ready s)
    (hcall : call.connection? = some id) (hclaim : call.claim = claim) (hentries : call.entries = [])
    (hrest : ∀ other ∈ rest, ∀ s, other.Fits id s ∧ other.entries = [] ∧ other.isOpening = false) :
    Inv (c.opened id claim).2.2 ((c.opened id claim).2.1.toList ++ rest)
      (created ++ call.credit c.link.server (c.opened id claim).2.2.link.server) := by
  let s := c.link.endSubscription.1
  have hc₁ : (c.subscribed id).manager.connection? = some (id, { n with subscription := .ready s }) :=
    Manager.connection?_modify _ hc
  have hfresh : id ∉ created.map (·.1) := fun hmem =>
    have ⟨s, hs⟩ := h.created_ready id n hc hmem
    hn s hs
  have hcredited := (h.subscribed hc hn hclaim hentries hrest).credited hc₁ rfl hfresh
  obtain ⟨answer, hnext, hsame, hinv⟩ := hcredited.createItems hc₁ rfl
  have hcredit : call.credit c.link.server (c.opened id claim).2.2.link.server = [(id, s)] := by
    have hafter : (c.opened id claim).2.2.link.server.subscriptions
        = c.link.server.subscriptions ++ [s] := hsame
    simp [MonitorCall.credit, hcall, hafter]
  have hcalls : (c.opened id claim).2.1 = some (.recording id claim answer) := hnext
  rw [hcredit, hcalls]
  exact hinv

/-- One call begins to create the subscription. -/
theorem Inv.opening {claim : Claim} (h : Inv c (.waiting id claim :: rest) created)
    (hc : c.manager.connection? = some (id, n)) (hn : ∀ s, n.subscription ≠ .ready s)
    (hrest : ∀ other ∈ rest, ∀ s, other.Fits id s ∧ other.entries = [] ∧ other.isOpening = false)
    (due : Nat) : Inv (c.modify id fun n => { n with subscription := .opening })
      (.opening id claim due :: rest) created := by
  have hbooks := h.connected id n hc
  refine h.progress hc rfl h.faultless (h.later rfl (Nat.le_refl _)) ?_
    fun s hready => absurd hready (hn s)
  exact {
    isOpen := hbooks.isOpen
    holds := h.empty hc hn
    entries := hbooks.entries
    pending := hbooks.pending
    nodup := hbooks.nodup
    fits := List.forall_mem_cons.2 ⟨⟨rfl, rfl⟩, fun other hother => (hrest other hother _).1⟩
    openings := openings_of_idle _ hrest }

/-- The client that has begun to create a subscription, which only counts the call. -/
def counted (c : Client) : Client :=
  { c with link := { c.link with server := { c.link.server with
    subscriptionCalls := c.link.server.subscriptionCalls + 1 } } }

/-- What getting at the subscription comes to on a link without faults: it is there, another call is
creating it, or this call creates it, at once or after the delay. -/
theorem subscribe_cases (hfaults : c.link.faults = {}) (hopen : c.link.server.closed = false)
    (hget : c.manager.get? id = some n) (now : Nat) (claim : Claim) :
    (∃ s, n.subscription = .ready s ∧ c.subscribe now id claim = c.createItems id claim s)
      ∨ (n.subscription = .opening ∧ c.subscribe now id claim = ([], some (.waiting id claim), c))
      ∨ (n.subscription = .absent ∧ c.subscribe now id claim = c.counted.opened id claim)
      ∨ (n.subscription = .absent ∧ 0 < c.link.server.subscriptionDelay
        ∧ c.subscribe now id claim
          = ([], some (.opening id claim (now + c.link.server.subscriptionDelay)),
            c.counted.modify id fun n => { n with subscription := .opening })) := by
  cases hs : n.subscription with
  | ready s => exact Or.inl ⟨s, rfl, by simp [Client.subscribe, hget, hs]⟩
  | opening => exact Or.inr (Or.inl ⟨rfl, by simp [Client.subscribe, hget, hs]⟩)
  | absent =>
    have hbegin := Link.beginSubscription_faultless hfaults hopen
    cases hdelay : c.link.server.subscriptionDelay with
    | zero =>
      refine Or.inr (Or.inr (Or.inl ⟨rfl, ?_⟩))
      simp [Client.subscribe, hget, hs, hbegin, hdelay, counted]
    | succ delay =>
      refine Or.inr (Or.inr (Or.inr ⟨rfl, Nat.succ_pos delay, ?_⟩))
      simp [Client.subscribe, hget, hs, hbegin, hdelay, counted]

/-- A call that is alone does not wait for another to create the subscription. -/
theorem Inv.subscribe_alone {claim : Claim} (h : Inv c [.waiting id claim] created)
    (hc : c.manager.connection? = some (id, n)) (now : Nat) :
    (∃ s, c.subscribe now id claim = c.createItems id claim s)
      ∨ c.subscribe now id claim = c.counted.opened id claim
      ∨ (0 < c.link.server.subscriptionDelay
        ∧ c.subscribe now id claim
          = ([], some (.opening id claim (now + c.link.server.subscriptionDelay)),
            c.counted.modify id fun n => { n with subscription := .opening })) := by
  have hbooks := h.connected id n hc
  have hget := (Manager.connection?_eq_some.1 hc).2
  rcases subscribe_cases h.faultless hbooks.isOpen hget now claim with
    ⟨s, -, hstep⟩ | ⟨hs, -⟩ | ⟨-, hstep⟩ | ⟨-, hdelay, hstep⟩
  · exact Or.inl ⟨s, hstep⟩
  · -- the one call there is waits itself
    have hone := hbooks.openings
    simp [hs, MonitorCall.isOpening] at hone
  · exact Or.inr (Or.inl hstep)
  · exact Or.inr (Or.inr ⟨hdelay, hstep⟩)

/-- A call gets at the subscription. -/
theorem Inv.subscribe {claim : Claim} (h : Inv c (.waiting id claim :: rest) created) (now : Nat) :
    Inv (c.subscribe now id claim).2.2 ((c.subscribe now id claim).2.1.toList ++ rest)
      (created ++ (MonitorCall.waiting id claim).credit c.link.server
        (c.subscribe now id claim).2.2.link.server) := by
  obtain ⟨n, hc⟩ := h.current rfl
  have hbooks := h.connected id n hc
  have hget := (Manager.connection?_eq_some.1 hc).2
  have hcounted : Inv c.counted (.waiting id claim :: rest) created :=
    h.progress hc (c.manager.modify_self id).symm h.faultless (h.later rfl (Nat.le_refl _))
      { hbooks with } fun _ hready => hready
  have habsent : n.subscription = .absent → (∀ s, n.subscription ≠ .ready s)
      ∧ ∀ other ∈ rest, ∀ s, other.Fits id s ∧ other.entries = [] ∧ other.isOpening = false := by
    intro hs
    refine ⟨fun s hready => by simp [hs] at hready, fun other hother => ?_⟩
    have hfits := hbooks.fits other (List.mem_cons_of_mem _ hother)
    exact MonitorCall.Fits.of_absent (hs ▸ hfits)
  rcases subscribe_cases h.faultless hbooks.isOpen hget now claim with
    ⟨s, hs, hstep⟩ | ⟨-, hstep⟩ | ⟨hs, hstep⟩ | ⟨hs, -, hstep⟩
  · obtain ⟨answer, hnext, hsame, hinv⟩ := h.createItems hc hs
    rw [hstep, hnext]
    exact hinv.credit_same hsame
  · rw [hstep]
    exact h.credit_same rfl
  · obtain ⟨hn, hrest⟩ := habsent hs
    rw [hstep]
    exact hcounted.opened hc hn rfl rfl rfl hrest
  · obtain ⟨hn, hrest⟩ := habsent hs
    rw [hstep]
    exact (hcounted.opening hc hn hrest _).credit_same rfl

/-- Once its subscription is due, a call asks for its items. -/
theorem step_opening (c : Client) (id : ConnectionId) (claim : Claim) {due now : Nat}
    (hdue : due ≤ now) : c.step now (.opening id claim due) = c.opened id claim :=
  if_pos hdue

/-- **Steps**: taking a call to where it waits next keeps the invariant. -/
theorem Inv.step (h : Inv c (call :: rest) created) (now : Nat) :
    Inv (c.step now call).2.2 ((c.step now call).2.1.toList ++ rest)
      (created ++ call.credit c.link.server (c.step now call).2.2.link.server) := by
  cases call with
  | asking texts =>
    show Inv (c.ask texts).2.2 ((c.ask texts).2.1.toList ++ rest) (created ++ [])
    rw [List.append_nil]
    exact h.ask
  | waiting id claim => exact h.subscribe now
  | opening id claim due =>
    by_cases hdue : due ≤ now
    · obtain ⟨n, hc⟩ := h.current rfl
      have hbooks := h.connected id n hc
      have hopening : n.subscription = .opening := (hbooks.fits _ List.mem_cons_self).2
      have hothers : rest.countP (·.isOpening) = 0 := by
        -- the one call that is creating the subscription is this one
        have hone := hbooks.openings
        rw [List.countP_cons_of_pos rfl, hopening] at hone
        exact Nat.succ.inj hone
      rw [c.step_opening id claim hdue]
      refine h.opened hc (fun s hready => ?_) rfl rfl rfl fun other hother s => ?_
      · simp [hopening] at hready
      · have hfits := hbooks.fits other (List.mem_cons_of_mem _ hother)
        have hother' : other.isOpening = false := by
          simpa using List.countP_eq_zero.1 hothers other hother
        obtain ⟨hfits', hentries⟩ := (hopening ▸ hfits).of_opening hother' s
        exact ⟨hfits', hentries, hother'⟩
    · have hstep : c.step now (.opening id claim due) = ([], some (.opening id claim due), c) := by
        simp [Client.step, hdue]
      rw [hstep]
      exact h.credit_same rfl
  | recording id claim answer =>
    have hsame := c.link_conclude id claim answer
    exact h.conclude.credit_same (congrArg (·.server.subscriptions) hsame)

/-! ## Unmonitor calls -/

/-- A client with items gone from the server. -/
def without (c : Client) (ids : List ItemId) : Client :=
  { c with link := { c.link with server := { c.link.server with
    items := c.link.server.items.filter (·.id ∉ ids) } } }

/-- Deleting items of an earlier connection deletes nothing. -/
theorem Inv.finishUnmonitor_earlier {own : UnmonitorCall} (h : Inv c calls created)
    (hget : c.manager.get? own.connection = some n) (hother : c.manager.current ≠ some own.connection)
    (keep : NodeId × Monitored → Bool) {ids : List ItemId}
    (hids : ∀ item ∈ ids, ∃ p ∈ n.monitored, p.2.item = item) :
    Inv ((c.without ids).modify own.connection fun _ =>
      { n with monitored := n.monitored.filter keep }) calls created := by
  have hkeep : c.link.server.items.filter (·.id ∉ ids) = c.link.server.items := by
    refine List.filter_eq_self.2 fun i hi => decide_eq_true fun hmem => ?_
    obtain ⟨p, hp, heq⟩ := hids _ hmem
    exact (h.earlier _ n hget hother p hp).2 i hi heq.symm
  rw [without, hkeep]
  have hcurrent := Manager.connection?_modify_of_ne
    (fun _ => { n with monitored := n.monitored.filter keep }) hother
  refine { h with valid := ?_, connected := ?_, disconnected := ?_, earlier := ?_,
                  created_known := ?_, created_ready := ?_ }
  · intro id hid
    obtain ⟨m, hm⟩ := h.valid id hid
    exact ⟨_, (Manager.get?_modify ..).trans (by rw [hm]; rfl)⟩
  · intro id m hm
    exact h.connected id m (hcurrent.symm.trans hm)
  · intro hnone
    exact h.disconnected (hcurrent.symm.trans hnone)
  · intro id m hm hne p hp
    have hm' := (Manager.get?_modify c.manager own.connection id _).symm.trans hm
    cases hold : c.manager.get? id with
    | none => simp [hold] at hm'
    | some m' =>
      by_cases heq : own.connection = id
      · obtain rfl : { n with monitored := n.monitored.filter keep } = m := by
          simpa [hold, heq] using hm'
        exact h.earlier own.connection n hget hother p (List.mem_filter.1 hp).1
      · obtain rfl : m' = m := by simpa [hold, heq] using hm'
        exact h.earlier id m' hold hne p hp
  · intro p hp
    show p.1.index < (c.manager.connections.modify _ _).length
    rw [List.length_modify]
    exact h.created_known p hp
  · intro id m hm
    exact h.created_ready id m (hcurrent.symm.trans hm)

/-- What an unmonitor call comes to on a link without faults: it names nothing that is monitored, it finds
the session closed, or the items of what it names go with their entries. -/
theorem finishUnmonitor_cases (hfaults : c.link.faults = {}) (own : UnmonitorCall)
    (hget : c.manager.get? own.connection = some n) :
    let targets := n.targets own.texts
    (targets = [] ∧ c.finishUnmonitor own = ([], c))
    ∨ (c.link.server.closed = true ∧ (c.finishUnmonitor own).2 = c)
    ∨ (c.link.server.closed = false ∧ targets ≠ [] ∧ c.finishUnmonitor own
      = ((n.erase targets (c.link.server.deleteEach (targets.map (·.2.item))).1).1,
        (c.without (targets.map (·.2.item))).modify own.connection fun _ =>
          { n with monitored := n.monitored.filter (·.1 ∉ targets.map (·.1)) })) := by
  intro targets
  by_cases hempty : targets = []
  · refine Or.inl ⟨hempty, ?_⟩
    simp only [Client.finishUnmonitor, hget]
    rw [if_pos (List.isEmpty_iff.2 hempty)]
  · have hfull : ¬ targets.isEmpty = true := fun h => hempty (List.isEmpty_iff.1 h)
    rcases Link.deleteItems_faultless hfaults (targets.map (·.2.item)) with
      ⟨hclosed, hanswer⟩ | ⟨hopen, hanswer⟩
    · refine Or.inr (Or.inl ⟨hclosed, ?_⟩)
      simp only [Client.finishUnmonitor, hget]
      rw [if_neg hfull, hanswer]
    · refine Or.inr (Or.inr ⟨hopen, hempty, ?_⟩)
      have herase : (n.erase targets (c.link.server.deleteEach (targets.map (·.2.item))).1).2
          = { n with monitored := n.monitored.filter (·.1 ∉ targets.map (·.1)) } :=
        Connection.erase_eq (by rw [Server.length_deleteEach, List.length_map])
      simp only [Client.finishUnmonitor, hget]
      rw [if_neg hfull, hanswer, ← herase]
      rfl

/-- An unmonitor call goes on to its end. -/
theorem Inv.finishUnmonitor (h : Inv c calls created) (own : UnmonitorCall) :
    Inv (c.finishUnmonitor own).2 calls created := by
  cases hget : c.manager.get? own.connection with
  | none =>
    have hend : c.finishUnmonitor own = ([], c) := by simp [Client.finishUnmonitor, hget]
    rw [hend]
    exact h
  | some n =>
    rcases c.finishUnmonitor_cases h.faultless own hget with
      ⟨-, hend⟩ | ⟨-, hend⟩ | ⟨-, -, hend⟩
    · rw [hend]
      exact h
    · rw [hend]
      exact h
    · rw [hend]
      -- a connection that has been replaced meanwhile lists items that are gone already
      by_cases hcurrent : c.manager.current = some own.connection
      · have hc := Manager.connection?_eq_some.2 ⟨hcurrent, hget⟩
        have hbooks := h.connected _ n hc
        have hnodup := List.nodup_append.1 hbooks.nodup
        refine h.progress hc rfl h.faultless ⟨Nat.le_refl _, ?_, ?_⟩ ?_ fun _ hready => hready
        · intro i hi
          exact Or.inl (List.mem_filter.1 hi).1
        · exact h.ids.sublist (List.filter_sublist.map _)
        · exact {
            isOpen := hbooks.isOpen
            holds := hbooks.holds.subset rfl fun i hi => (List.mem_filter.1 hi).1
            entries := perm_delete hbooks.entries h.ids hnodup.1 fun t ht =>
              Connection.mem_of_mem_targets ht
            pending := hbooks.pending
            nodup :=
              hbooks.nodup.sublist (List.Sublist.append_right (List.filter_sublist.map _) _)
            fits := hbooks.fits
            openings := hbooks.openings }
      · refine h.finishUnmonitor_earlier hget hcurrent _ fun item hitem => ?_
        obtain ⟨t, ht, heq⟩ := List.mem_map.1 hitem
        exact ⟨t, Connection.mem_of_mem_targets ht, heq⟩

/-- What an unmonitor call comes to when no monitor call is in progress: it names nothing that is monitored,
or the items of what it names go with their entries. -/
theorem Inv.unmonitor_cases (h : Inv c [] created) (hc : c.manager.connection? = some (id, n))
    (texts : List String) :
    let targets := n.targets texts
    (targets = [] ∧ c.unmonitor texts = ([], c))
    ∨ (targets ≠ [] ∧ c.unmonitor texts
      = ((n.erase targets (c.link.server.deleteEach (targets.map (·.2.item))).1).1,
        (c.without (targets.map (·.2.item))).modify id fun _ =>
          { n with monitored := n.monitored.filter (·.1 ∉ targets.map (·.1)) })) := by
  intro targets
  have hbooks := h.connected id n hc
  have hget := (Manager.connection?_eq_some.1 hc).2
  cases hs : n.subscription.id? with
  | none =>
    -- without a subscription nothing is monitored, and the call ends at once
    have hnone : ∀ s, n.subscription ≠ .ready s := fun s hready => by
      simp [hready, SharedSubscription.id?] at hs
    have hempty : n.monitored = [] := by
      have hentries := hbooks.entries
      rw [(h.empty hc hnone).2] at hentries
      simpa using hentries
    refine Or.inl ⟨?_, by simp [Client.unmonitor, Client.beginUnmonitor, hc, hs]⟩
    refine List.eq_nil_iff_forall_not_mem.2 fun t ht => ?_
    have hmem := Connection.mem_of_mem_targets ht
    exact absurd (hempty ▸ hmem) List.not_mem_nil
  | some s =>
    have hcall : c.unmonitor texts = c.finishUnmonitor ⟨id, texts⟩ := by
      simp [Client.unmonitor, Client.beginUnmonitor, hc, hs]
    rw [hcall]
    rcases c.finishUnmonitor_cases h.faultless ⟨id, texts⟩ hget with
      hnothing | ⟨hclosed, -⟩ | ⟨-, hfull, hend⟩
    · exact Or.inl hnothing
    · exact absurd (hclosed.symm.trans hbooks.isOpen) (by decide)
    · exact Or.inr ⟨hfull, hend⟩

end FieldBridge.Client
