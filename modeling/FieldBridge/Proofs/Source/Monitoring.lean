/-
  A monitor call that is alone on its client.

  1. **What it wants** — the call claims the nodes that its texts name and that are not monitored yet
     (`Claim.Wants`); the answers then add those that the server does not refuse (`Claim.Wants.adds`).

  2. **Any order** — a call may put its claim into any order before it asks for its items.  The moves of a
     client are its events and that (`Traffic.Move`).

  3. **From the beginning to the end** — whatever the pace and the order, the call stays about its texts
     (`Serving.move`, `Serving.travel`), and it ends (`Serving.ends`).
-/

import FieldBridge.Proofs.Source.Naming

namespace FieldBridge

/-! ## A call alone -/

/-- A claim holds the nodes that texts name and that are not among some entries, each once and under its
first text. -/
structure Claim.Wants (texts : List String) (entries : List (NodeId × Monitored)) (claim : Claim) :
    Prop where
  nodup : claim.nodes.Nodup
  mem : ∀ p, p ∈ claim ↔ p.1 ∉ entries.map (·.1) ∧ firstText? texts p.1 = some p.2

/-- Entries are those that a call about some texts adds to others when the server refuses some nodes. -/
def Adds (texts : List String) (entries : List (NodeId × Monitored)) (rejected : List NodeId)
    (added : List (NodeId × Monitored)) : Prop :=
  ∀ node text, (∃ m, (node, m) ∈ added ∧ m.text = text)
    ↔ node ∉ entries.map (·.1) ∧ node ∉ rejected ∧ firstText? texts node = some text

/-- Where a call stands that is about some texts and came in when there were some entries, on a server
that refuses some nodes. -/
def MonitorCall.About (texts : List String) (entries : List (NodeId × Monitored))
    (rejected : List NodeId) : MonitorCall → Prop
  | .asking own => own = texts
  | .waiting _ claim | .opening _ claim _ => claim.Wants texts entries
  | .recording _ claim answer => claim.Wants texts entries ∧ ∃ results, answer = .ok results
    ∧ results.map (·.node) = claim.nodes
    ∧ ∀ r ∈ results, r.status.isGood = decide (r.node ∉ rejected)

variable {texts : List String} {entries : List (NodeId × Monitored)} {rejected : List NodeId}
  {claim : Claim}

/-- The order of a claim does not matter. -/
theorem Claim.Wants.perm {other : Claim} (h : claim.Wants texts entries) (hperm : other.Perm claim) :
    other.Wants texts entries where
  nodup := (List.Perm.map Prod.fst hperm).nodup_iff.2 h.nodup
  mem := fun p => hperm.mem_iff.trans (h.mem p)

/-- The texts of a claim are those under which its nodes are monitored. -/
theorem Claim.Wants.spelling {p : NodeId × String} (h : claim.Wants texts entries) (hp : p ∈ claim) :
    Connection.spelling claim p.1 = p.2 := by
  rw [Connection.spelling, (lookup_eq_some_iff_mem h.nodup).2 hp]
  rfl

/-- Recording the answers adds what was wanted and not refused. -/
theorem Claim.Wants.adds {results : List ItemResult} (h : claim.Wants texts entries)
    (hnodes : results.map (·.node) = claim.nodes)
    (hgood : ∀ r ∈ results, r.status.isGood = decide (r.node ∉ rejected)) :
    Adds texts entries rejected (Connection.entries claim results) := by
  intro node text
  constructor
  · rintro ⟨m, hm, rfl⟩
    obtain ⟨r, hr, heq⟩ := List.mem_map.1 hm
    obtain ⟨rfl, rfl⟩ := Prod.mk.inj heq
    obtain ⟨hr, hstatus⟩ := List.mem_filter.1 hr
    have hclaimed : r.node ∈ claim.nodes := hnodes ▸ List.mem_map_of_mem hr
    obtain ⟨p, hp, hnode⟩ := List.mem_map.1 hclaimed
    rw [hgood r hr] at hstatus
    obtain ⟨hnew, hfirst⟩ := (h.mem p).1 hp
    rw [← hnode, h.spelling hp]
    exact ⟨hnew, hnode ▸ of_decide_eq_true hstatus, hfirst⟩
  · rintro ⟨hnew, haccepted, hfirst⟩
    have hp : (node, text) ∈ claim := (h.mem (node, text)).2 ⟨hnew, hfirst⟩
    have hclaimed : node ∈ claim.nodes := List.mem_map_of_mem hp
    rw [← hnodes] at hclaimed
    obtain ⟨r, hr, rfl⟩ := List.mem_map.1 hclaimed
    have hstatus : r.status.isGood = true := (hgood r hr).trans (decide_eq_true haccepted)
    exact ⟨_, List.mem_map_of_mem (List.mem_filter.2 ⟨hr, hstatus⟩), h.spelling hp⟩

namespace Client

variable {c : Client} {call : MonitorCall} {created : List (ConnectionId × SubscriptionId)}
  {id : ConnectionId} {n : Connection} {refused : List NodeId}

/-- A client on which a call about some texts is alone, or has ended, that came in when the connection had
some entries.  The server refuses some nodes all the while. -/
structure Lone (id : ConnectionId) (texts : List String) (entries : List (NodeId × Monitored))
    (refused : List NodeId) (c : Client) (call? : Option MonitorCall) : Prop where
  rejected : c.link.server.rejected = refused
  connection : ∃ n, c.manager.connection? = some (id, n) ∧ match call? with
    | some call => n.monitored = entries ∧ call.About texts entries refused
    | none => ∃ added, n.monitored = entries ++ added ∧ Adds texts entries refused added

/-- The call asks for its items. -/
theorem Lone.createItems (hfaults : c.link.faults = {}) (hopen : c.link.server.closed = false)
    (hc : c.manager.connection? = some (id, n)) (hclaim : claim.Wants texts n.monitored)
    (own : ConnectionId) (s : SubscriptionId) :
    Lone id texts n.monitored c.link.server.rejected (c.createItems own claim s).2.2
        (c.createItems own claim s).2.1
      ∧ ∀ next, (c.createItems own claim s).2.1 = some next → next.remaining = 0 := by
  obtain ⟨results, hanswer, hnodes, -, -, hserver⟩ := Link.createItems_faultless hfaults hopen s
    (Connection.requests claim c.nextHandle) ⟨claim⟩
  rw [Connection.nodes_requests] at hnodes
  refine ⟨⟨?_, n, hc, rfl, hclaim, results, hanswer, hnodes, ?_⟩, fun next hnext => ?_⟩
  · exact congrArg (·.rejected) hserver
  · exact Link.status_createItems hfaults hanswer
  · obtain rfl := Option.some.inj hnext
    rfl

/-- The call has got its subscription and asks for its items. -/
theorem Lone.opened (hfaults : c.link.faults = {}) (hopen : c.link.server.closed = false)
    (hc : c.manager.connection? = some (id, n)) (hclaim : claim.Wants texts n.monitored) :
    Lone id texts n.monitored c.link.server.rejected (c.opened id claim).2.2 (c.opened id claim).2.1
      ∧ ∀ next, (c.opened id claim).2.1 = some next → next.remaining = 0 :=
  Lone.createItems (c := c.subscribed id) hfaults hopen (Manager.connection?_modify _ hc) hclaim id _

/-- **Step** of a call that is alone: it goes on or, when it ends, it has added what it had to. -/
theorem Lone.step (h : Lone id texts entries refused c (some call)) (hinv : Inv c [call] created)
    (now : Nat) :
    Lone id texts entries refused (c.step now call).2.2 (c.step now call).2.1
      ∧ ∀ next, (c.step now call).2.1 = some next → Moves call now next := by
  obtain ⟨n, hc, rfl, hcall⟩ := h.connection
  obtain rfl := h.rejected
  have hbooks := hinv.connected id n hc
  have hget := (Manager.connection?_eq_some.1 hc).2
  cases call with
  | asking own =>
    obtain rfl : own = texts := hcall
    -- nothing is pending, so what is free is what is not monitored
    have hpending : n.pending = [] := List.perm_nil.1 hbooks.pending
    have hwants : (n.claim own).2.1.Wants own n.monitored := by
      refine ⟨(n.nodup_claim own).1, fun p => ?_⟩
      rw [Connection.mem_claim_iff, Connection.isTaken_eq_false_iff, lookup_eq_none_iff_notMem,
        hpending]
      simp
    simp only [Client.step, Client.ask, hc]
    by_cases hempty : (n.claim own).2.1 = []
    · simp only [hempty, List.isEmpty_nil, if_pos]
      refine ⟨⟨rfl, _, Manager.connection?_modify _ hc, [], ?_, fun node text => ?_⟩, by simp⟩
      · exact (List.append_nil _).symm
      · have hnone := hwants.mem (node, text)
        rw [hempty] at hnone
        simp only [List.not_mem_nil, false_iff] at hnone
        constructor
        · rintro ⟨m, hm, -⟩
          exact absurd hm List.not_mem_nil
        · rintro ⟨hnew, -, hfirst⟩
          exact absurd ⟨hnew, hfirst⟩ hnone
    · have hfull : (n.claim own).2.1.isEmpty = false := by simpa using hempty
      simp only [hfull]
      refine ⟨⟨rfl, _, Manager.connection?_modify _ hc, rfl, hwants⟩, fun next hnext => ?_⟩
      obtain rfl := Option.some.inj hnext
      exact Or.inl (Nat.lt_succ_self 2)
  | waiting own claim =>
    obtain rfl : own = id := hinv.own_connection hc rfl
    have hdone : ∀ {p : Progress}, (∀ next, p.2.1 = some next → next.remaining = 0) →
        ∀ next, p.2.1 = some next → Moves (.waiting own claim) now next := by
      intro p hlast next hnext
      exact Or.inl (hlast next hnext ▸ Nat.succ_pos 1)
    simp only [Client.step]
    rcases hinv.subscribe_alone hc now with ⟨s, hstep⟩ | hstep | ⟨hdelay, hstep⟩
    · obtain ⟨hlone, hlast⟩ := Lone.createItems hinv.faultless hbooks.isOpen hc hcall own s
      rw [hstep]
      exact ⟨hlone, hdone hlast⟩
    · obtain ⟨hlone, hlast⟩ :=
        Lone.opened (c := c.counted) hinv.faultless hbooks.isOpen hc hcall
      rw [hstep]
      exact ⟨hlone, hdone hlast⟩
    · rw [hstep]
      refine ⟨⟨rfl, _, Manager.connection?_modify _ hc, rfl, hcall⟩, fun next hnext => ?_⟩
      obtain rfl := Option.some.inj hnext
      exact Or.inl (Nat.lt_succ_self 1)
  | opening own claim due =>
    obtain rfl : own = id := hinv.own_connection hc rfl
    by_cases hdue : due ≤ now
    · obtain ⟨hlone, hlast⟩ := Lone.opened hinv.faultless hbooks.isOpen hc hcall
      simp only [Client.step, if_pos hdue]
      exact ⟨hlone, fun next hnext => Or.inl (hlast next hnext ▸ Nat.succ_pos 0)⟩
    · simp only [Client.step, if_neg hdue]
      refine ⟨h, fun next hnext => ?_⟩
      obtain rfl := Option.some.inj hnext
      exact Or.inr ⟨own, claim, due, rfl, Nat.lt_of_not_le hdue⟩
  | recording own claim answer =>
    obtain rfl : own = id := hinv.own_connection hc rfl
    obtain ⟨hwants, results, rfl, hnodes, hgood⟩ := hcall
    have hfresh : (n.monitored.map (·.1) ++ results.map (·.node)).Nodup := by
      have hnodup := hbooks.nodup
      rw [List.flatMap_singleton] at hnodup
      rw [hnodes]
      exact hnodup
    have hend : (c.conclude own claim (.ok results)).2
        = c.modify own fun _ => (n.record claim results).2.release claim := by
      simp [Client.conclude, hget]
    simp only [Client.step]
    rw [hend]
    refine ⟨⟨rfl, _, Manager.connection?_modify _ hc, Connection.entries claim results, ?_, ?_⟩,
      fun next hnext => absurd hnext (by simp)⟩
    · show ((n.record claim results).2).monitored = _
      rw [Connection.record_eq hfresh]
    · exact hwants.adds hnodes hgood

end Client

/-! ## Claims in any order -/

namespace Traffic

/-- What can happen, and in which order a call asks for the nodes of its claim. -/
inductive Move where
  | event (e : Event)
  /-- The call at this place, which has not asked yet, puts its claim into another order. -/
  | reorder (place : Nat) (claim : Claim)

/-- A move is one of the calls in progress, or time. -/
def Move.Paces : Move → Prop
  | .event (.monitorOn _) | .event (.pass _) | .reorder _ _ => True
  | _ => False

/-- One move. -/
def move (t : Traffic) : Move → Traffic
  | .event e => t.step e
  | .reorder place claim => match t.monitors[place]? with
    | some (.waiting id own) =>
      if claim.Perm own then { t with
        monitors := t.monitors.take place ++ [.waiting id claim] ++ t.monitors.drop (place + 1) }
      else t
    | _ => t

/-- A run in which claims may be put into any order. -/
def travel (t : Traffic) (moves : List Move) : Traffic := moves.foldl move t

variable {t t' : Traffic} {id : ConnectionId} {n : Connection} {refused : List NodeId}

/-- A claim put into another order is as good. -/
theorem inv_reorder {c : Client} {calls : List MonitorCall}
    {created : List (ConnectionId × SubscriptionId)} {own : Claim}
    (h : c.Inv (.waiting id own :: calls) created) (hperm : claim.Perm own) :
    c.Inv (.waiting id claim :: calls) created := by
  have hnodes : claim.nodes.Perm own.nodes := List.Perm.map Prod.fst hperm
  refine h.recall (fun id' n hbooks => ?_) fun hcalls call hcall => ?_
  · exact { hbooks with
      pending := hbooks.pending.trans (hnodes.symm.append_right _)
      nodup := ((hnodes.append_right _).append_left _).nodup_iff.2 hbooks.nodup
      fits :=
        have ⟨hown, hcalls⟩ := List.forall_mem_cons.1 hbooks.fits
        List.forall_mem_cons.2 ⟨hown, hcalls⟩ }
  · obtain ⟨texts, heq⟩ := hcalls _ List.mem_cons_self
    exact absurd heq (by simp)

theorem inv_move (h : t.Inv) (m : Move) : (t.move m).Inv := by
  cases m with
  | event e => exact inv_step h e
  | reorder place claim =>
    simp only [move]
    split
    · rename_i id own hcall
      split
      · rename_i hperm
        have hfirst := Client.Inv.perm h (perm_place hcall)
        exact (inv_reorder hfirst hperm).perm (perm_back t.monitors place [.waiting id claim])
      · exact h
    · exact h

theorem inv_travel (h : t.Inv) (moves : List Move) : (t.travel moves).Inv := by
  induction moves generalizing t with
  | nil => exact h
  | cons m rest ih => exact ih (inv_move h m)

/-! ## A call from its beginning to its end -/

/-- A call about some texts that came in alone is in progress, or has ended. -/
structure Serving (id : ConnectionId) (texts : List String) (entries : List (NodeId × Monitored))
    (refused : List NodeId) (t : Traffic) : Prop where
  inv : t.Inv
  alone : ∃ call? : Option MonitorCall, t.monitors = call?.toList
    ∧ t.client.Lone id texts entries refused call?

/-- The invariant where the calls in progress are known. -/
theorem Inv.of_monitors {calls : List MonitorCall} (h : t.Inv) (hcalls : t.monitors = calls) :
    t.client.Inv calls t.created :=
  hcalls ▸ h

/-- The only call goes on. -/
theorem monitors_monitorOn {call : MonitorCall} (hcall : t.monitors = [call]) :
    (t.step (.monitorOn 0)).client = (t.client.step t.now call).2.2
      ∧ (t.step (.monitorOn 0)).monitors = (t.client.step t.now call).2.1.toList := by
  simp [step, hcall, monitorOn]

/-- Where no call is, none goes on. -/
theorem step_monitorOn_of_none {place : Nat} (h : t.monitors[place]? = none) :
    t.step (.monitorOn place) = t := by
  simp [step, h]

/-- **Step**: the call stays alone until it ends. -/
theorem Serving.move (h : t.Serving id texts entries refused) {m : Move} (hm : m.Paces) :
    (t.move m).Serving id texts entries refused := by
  refine ⟨inv_move h.inv m, ?_⟩
  obtain ⟨call?, hcalls, hlone⟩ := h.alone
  cases m with
  | event e =>
    cases e with
    | monitorOn place =>
      cases call? with
      | none =>
        have hsame : t.step (.monitorOn place) = t := step_monitorOn_of_none (by simp [hcalls])
        simp only [Traffic.move, hsame]
        exact ⟨none, hcalls, hlone⟩
      | some call =>
        cases place with
        | zero =>
          obtain ⟨hclient, hmonitors⟩ := monitors_monitorOn hcalls
          have hinv := h.inv.of_monitors hcalls
          refine ⟨_, hmonitors, ?_⟩
          simp only [Traffic.move, hclient]
          exact (hlone.step hinv t.now).1
        | succ place =>
          have hsame : t.step (.monitorOn (place + 1)) = t :=
            step_monitorOn_of_none (by simp [hcalls])
          simp only [Traffic.move, hsame]
          exact ⟨some call, hcalls, hlone⟩
    | pass ms => exact ⟨call?, hcalls, hlone⟩
    | _ => exact absurd hm (by simp [Move.Paces])
  | reorder place claim =>
    simp only [Traffic.move]
    split
    · rename_i own other hcall
      split
      · rename_i hperm
        -- the call in that place is the only one
        cases call? with
        | none => simp [hcalls] at hcall
        | some call =>
          cases place with
          | succ place => simp [hcalls] at hcall
          | zero =>
            obtain rfl : call = .waiting own other := by simpa [hcalls] using hcall
            obtain ⟨n, hc, hentries, hwants⟩ := hlone.connection
            refine ⟨some (.waiting own claim), by simp [hcalls], hlone.rejected, n, hc, hentries, ?_⟩
            exact Claim.Wants.perm hwants hperm
      · exact ⟨call?, hcalls, hlone⟩
    · exact ⟨call?, hcalls, hlone⟩

/-- **Run** of a call that is alone. -/
theorem Serving.travel (h : t.Serving id texts entries refused) {pace : List Move}
    (hpace : ∀ m ∈ pace, m.Paces) : (t.travel pace).Serving id texts entries refused := by
  induction pace generalizing t with
  | nil => exact h
  | cons m rest ih =>
    obtain ⟨hm, hrest⟩ := List.forall_mem_cons.1 hpace
    exact ih (h.move hm) hrest

/-- Some time and some steps bring all calls to their end. -/
def Ends (t : Traffic) : Prop := ∃ pace, (∀ m ∈ pace, Move.Paces m) ∧ (t.travel pace).monitors = []

/-- What ends after a move that is one of the calls ends. -/
theorem Ends.of_move {m : Move} (hm : m.Paces) (h : (t.move m).Ends) : t.Ends := by
  obtain ⟨pace, hpace, hend⟩ := h
  exact ⟨m :: pace, List.forall_mem_cons.2 ⟨hm, hpace⟩, hend⟩

/-- The call that is in progress is the one that is alone. -/
theorem Serving.lone {call : MonitorCall} (h : t.Serving id texts entries refused)
    (hcalls : t.monitors = [call]) : t.client.Lone id texts entries refused (some call) := by
  obtain ⟨call?, hcalls', hlone⟩ := h.alone
  obtain rfl : call? = some call := by
    have heq : call?.toList = [call] := hcalls'.symm.trans hcalls
    simpa using heq
  exact hlone

/-- A call ends if what is left of it after a step does. -/
theorem Serving.ends_of_step {call : MonitorCall} (h : t.Serving id texts entries refused)
    (hcalls : t.monitors = [call])
    (hrest : ∀ next, (t.client.step t.now call).2.1 = some next → ∀ t' : Traffic,
      t'.Serving id texts entries refused → t'.monitors = [next] → t'.Ends) : t.Ends := by
  have hnext := h.move (m := .event (.monitorOn 0)) trivial
  obtain ⟨-, hmonitors⟩ := monitors_monitorOn hcalls
  refine Ends.of_move (m := .event (.monitorOn 0)) trivial ?_
  cases hstep : (t.client.step t.now call).2.1 with
  | none =>
    rw [hstep] at hmonitors
    exact ⟨[], fun m hm => absurd hm List.not_mem_nil, hmonitors⟩
  | some next =>
    rw [hstep] at hmonitors
    exact hrest next hstep _ hnext hmonitors

/-- The subscription that a call waits for is due some time. -/
theorem exists_due (call : MonitorCall) (now : Nat) :
    ∃ ms, ∀ own claim due, call = .opening own claim due → due ≤ now + ms := by
  cases call with
  | opening own claim due =>
    refine ⟨due, fun _ _ due' heq => ?_⟩
    obtain ⟨-, -, rfl⟩ := MonitorCall.opening.inj heq
    exact Nat.le_add_left _ _
  | asking own => exact ⟨0, fun _ _ _ heq => absurd heq (by simp)⟩
  | waiting own claim => exact ⟨0, fun _ _ _ heq => absurd heq (by simp)⟩
  | recording own claim answer => exact ⟨0, fun _ _ _ heq => absurd heq (by simp)⟩

/-- When it is due, the call gets further with every step. -/
theorem remaining_lt_of_due {c : Client} {now : Nat} {call next : MonitorCall}
    (hmoves : Client.Moves call now next) (hnext : (c.step now call).2.1 = some next)
    (hdue : ∀ own claim due, call = .opening own claim due → due ≤ now) :
    next.remaining < call.remaining := by
  rcases hmoves with hless | ⟨own, claim, due, rfl, -⟩
  · exact hless
  · cases call with
    | asking own => exact Nat.succ_lt_succ (Nat.succ_pos 1)
    | waiting own claim => exact Nat.lt_succ_self 1
    | opening own claim due =>
      rw [c.step_opening own claim (hdue own claim due rfl)] at hnext
      exact absurd hnext (by simp [Client.opened, Client.createItems])
    | recording own claim answer => exact absurd hnext (by simp [Client.step])

/-- **A call that is alone ends**: it waits only for its subscription, and that is due some time. -/
theorem Serving.ends (h : t.Serving id texts entries refused) : t.Ends := by
  have hcall : ∀ call : MonitorCall, ∀ t : Traffic, t.Serving id texts entries refused →
      t.monitors = [call] → t.Ends := by
    intro call
    induction hwaits : call.remaining using Nat.strongRecOn generalizing call with
    | ind waits ih =>
      intro t h hcalls
      -- once what it waits for is due, the call gets further with every step
      obtain ⟨ms, hdue⟩ := exists_due call t.now
      have hlater := h.move (m := .event (.pass ms)) trivial
      refine Ends.of_move (m := .event (.pass ms)) trivial ?_
      refine hlater.ends_of_step hcalls fun next hnext t' h' hcalls' => ?_
      have hmoves := ((hlater.lone hcalls).step (hlater.inv.of_monitors hcalls) _).2 next hnext
      have hless := remaining_lt_of_due hmoves hnext hdue
      exact ih _ (hwaits ▸ hless) next rfl t' h' hcalls'
  obtain ⟨call?, hcalls, -⟩ := h.alone
  cases call? with
  | none => exact ⟨[], fun m hm => absurd hm List.not_mem_nil, hcalls⟩
  | some call => exact hcall call t h hcalls

end Traffic

end FieldBridge
