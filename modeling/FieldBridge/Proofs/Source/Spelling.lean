/-
  One monitor call at a time.

  1. **Spellings** — a claim holds each node under the first text that names it, and so do the items made
     for it: a change of a node is told in the words that name it first.

  2. **A lone call** — a call that is alone in its client waits for nothing but its own subscription
     (`Alone.advance`): nobody else can be creating one.  Once that is due it goes on to its end
     (`advance_due`).

  3. **Between calls** — a change of a monitored node is told once (`Alone.changes_monitored`), of any
     other node to nobody.
-/

import FieldBridge.Proofs.Source.Traffic

namespace FieldBridge

/-! ## Spellings -/

/-- The first text that names a node. -/
def firstText? (texts : List String) (node : NodeId) : Option String :=
  texts.find? fun text => NodeId.parse? text = some node

/-- A text that does not name a node is passed over. -/
theorem firstText?_cons_of_ne {text : String} {node : NodeId} (h : NodeId.parse? text ≠ some node)
    (texts : List String) : firstText? (text :: texts) node = firstText? texts node :=
  List.find?_cons_of_neg (by simpa using h)

theorem firstText?_cons_of_eq {text : String} {node : NodeId} (h : NodeId.parse? text = some node)
    (texts : List String) : firstText? (text :: texts) node = some text :=
  List.find?_cons_of_pos (by simpa using h)

/-- The text found names the node. -/
theorem parse?_of_firstText? {texts : List String} {node : NodeId} {text : String}
    (h : firstText? texts node = some text) : NodeId.parse text = .ok node := by
  rw [firstText?] at h
  have hparse : NodeId.parse? text = some node := by simpa using List.find?_some h
  unfold NodeId.parse? at hparse
  cases hp : NodeId.parse text with
  | error e => simp [hp, Except.toOption] at hparse
  | ok node' =>
    obtain rfl : node' = node := by simpa [hp, Except.toOption] using hparse
    rfl

/-- A claim holds nodes under the first of some texts that names them. -/
def Claim.Spells (claim : Claim) (texts : List String) : Prop :=
  ∀ p ∈ claim, firstText? texts p.1 = some p.2

/-- A node that is new in a claim has its first text there. -/
theorem Connection.firstText?_of_mem_screen {c : Connection} {held : Claim} {texts : List String}
    {p : NodeId × String} (h : p ∈ (c.screen held texts).2) :
    p ∈ held ∨ p.1 ∉ held.nodes ∧ firstText? texts p.1 = some p.2 := by
  induction texts generalizing held with
  | nil => exact Or.inl h
  | cons text rest ih =>
    have hnode : p.1 ∈ (c.screen held (text :: rest)).2.nodes := List.mem_map_of_mem h
    rw [screen] at h
    split at h
    · rename_i e he
      have hskip : NodeId.parse? text ≠ some p.1 := by simp [NodeId.parse?, he, Except.toOption]
      rw [firstText?_cons_of_ne hskip]
      exact ih h
    · rename_i named hnamed
      have hparse : NodeId.parse? text = some named := by simp [NodeId.parse?, hnamed, Except.toOption]
      have hskip : named ≠ p.1 → NodeId.parse? text ≠ some p.1 := fun hne heq =>
        hne (Option.some.inj (hparse.symm.trans heq))
      split at h
      · rename_i htaken
        rcases ih h with hheld | ⟨hnew, hfirst⟩
        · exact Or.inl hheld
        · refine Or.inr ⟨hnew, ?_⟩
          -- a node that is taken or held is not new
          have hne : named ≠ p.1 := by
            intro heq
            rcases free_of_mem_screen hnode with hheld | hfree
            · exact hnew hheld
            · simp [heq, hfree, hnew] at htaken
          rw [firstText?_cons_of_ne (hskip hne)]
          exact hfirst
      · rename_i hfree
        have hnew : named ∉ held.nodes := fun hmem => hfree (by simp [hmem])
        rcases ih h with hheld | ⟨hother, hfirst⟩
        · rcases List.mem_append.1 hheld with hold | hown
          · exact Or.inl hold
          · obtain rfl := List.mem_singleton.1 hown
            exact Or.inr ⟨hnew, firstText?_cons_of_eq hparse rest⟩
        · rw [Claim.nodes, List.map_append, List.mem_append, not_or] at hother
          have hne : named ≠ p.1 := fun heq => hother.2 (by simp [heq])
          refine Or.inr ⟨hother.1, ?_⟩
          rw [firstText?_cons_of_ne (hskip hne)]
          exact hfirst

/-- What is claimed for texts has its first text in the claim. -/
theorem Connection.spells_claim (c : Connection) (texts : List String) :
    (c.claim texts).2.1.Spells texts := by
  intro p hp
  rcases firstText?_of_mem_screen hp with hheld | ⟨-, hfirst⟩
  · exact absurd hheld List.not_mem_nil
  · exact hfirst

/-- An observer of a claim knows the nodes of the claim by their first texts. -/
theorem Claim.Spells.spelling {claim : Claim} {texts : List String} (h : claim.Spells texts)
    {node : NodeId} (hnode : node ∈ claim.nodes) :
    firstText? texts node = some ((⟨claim⟩ : Observer).spelling node) := by
  obtain ⟨p, hp, rfl⟩ := List.mem_map.1 hnode
  cases htext : claim.lookup p.1 with
  | none =>
    have hne := List.lookup_eq_none_iff.1 htext p hp
    exact absurd hne (by simp)
  | some text =>
    obtain ⟨before, after, hsplit, -⟩ := List.lookup_eq_some_iff.1 htext
    have hmem : (p.1, text) ∈ claim := hsplit ▸ List.mem_append_right _ List.mem_cons_self
    have hspelling : (⟨claim⟩ : Observer).spelling p.1 = text := by
      simp [Observer.spelling, htext]
    rw [hspelling]
    exact h _ hmem

/-- The items of a server are observed under the first of some texts that names their node. -/
def Server.Spells (s : Server) (texts : List String) : Prop :=
  ∀ i ∈ s.items, firstText? texts i.node = some (i.observer.spelling i.node)

/-- A call is about some texts. -/
def MonitorCall.Spells (texts : List String) : MonitorCall → Prop
  | .asking own => own = texts
  | .waiting _ claim | .opening _ claim _ | .recording _ claim _ => claim.Spells texts

namespace Client

variable {c : Client} {call : MonitorCall} {texts : List String} {claim : Claim} {id : ConnectionId}
  {created : List (ConnectionId × SubscriptionId)}

/-- The items made for a claim are known by its spellings. -/
theorem spells_createItems (hfaults : c.link.faults = {}) (hopen : c.link.server.closed = false)
    (hserver : c.link.server.Spells texts) (hclaim : claim.Spells texts) (id : ConnectionId)
    (s : SubscriptionId) :
    (c.createItems id claim s).2.2.link.server.Spells texts
      ∧ ∃ answer, (c.createItems id claim s).2.1 = some (.recording id claim answer) := by
  obtain ⟨results, -, hnodes, -, -, hafter⟩ := Link.createItems_faultless hfaults hopen s
    (Connection.requests claim c.nextHandle) ⟨claim⟩
  rw [Connection.nodes_requests] at hnodes
  have hitems : (c.createItems id claim s).2.2.link.server.items
      = c.link.server.items ++ Server.made s ⟨claim⟩ results :=
    congrArg Server.items hafter
  refine ⟨fun i hi => ?_, _, rfl⟩
  rw [hitems] at hi
  rcases List.mem_append.1 hi with hold | hnew
  · exact hserver i hold
  · obtain ⟨r, hr, rfl⟩ := List.mem_map.1 hnew
    have hnode : r.node ∈ claim.nodes := hnodes ▸ List.mem_map_of_mem (List.mem_filter.1 hr).1
    exact hclaim.spelling hnode

/-- A subscription that comes into being has the items of the call that waited for it. -/
theorem spells_opened (hfaults : c.link.faults = {}) (hopen : c.link.server.closed = false)
    (hserver : c.link.server.Spells texts) (hclaim : claim.Spells texts) (id : ConnectionId) :
    (c.opened id claim).2.2.link.server.Spells texts
      ∧ ∃ answer, (c.opened id claim).2.1 = some (.recording id claim answer) := by
  have hsubscribed : (c.subscribed id).link.server.Spells texts := hserver
  exact (c.subscribed id).spells_createItems hfaults hopen hsubscribed hclaim id _

/-! ## A lone call -/

/-- A client with at most one call in progress, everything on it being about some texts. -/
structure Alone (texts : List String) (c : Client) (call : Option MonitorCall) : Prop where
  books : ∃ created, Inv c call.toList created
  items : c.link.server.Spells texts
  call : ∀ own, call = some own → own.Spells texts

/-- A lone call goes on, or it is creating its subscription and that is not due. -/
def Moves (call : MonitorCall) (now : Nat) (next : MonitorCall) : Prop :=
  next.remaining < call.remaining ∨ ∃ id claim due, next = .opening id claim due ∧ now < due

/-- A lone call gets at the subscription: nobody else is there to be creating it. -/
theorem Alone.subscribe (h : Alone texts c (some (.waiting id claim))) (now : Nat) :
    (c.subscribe now id claim).2.2.link.server.Spells texts
      ∧ ∀ next, (c.subscribe now id claim).2.1 = some next →
        next.Spells texts ∧ Moves (.waiting id claim) now next := by
  obtain ⟨created, hinv⟩ := h.books
  have hown : claim.Spells texts := h.call _ rfl
  obtain ⟨n, hc⟩ := hinv.current rfl
  have hbooks := hinv.connected id n hc
  have hrecording : ∀ (p : Progress) answer next, p.2.1 = some (.recording id claim answer) →
      p.2.1 = some next → next.Spells texts ∧ Moves (.waiting id claim) now next := by
    intro p answer next hp heq
    obtain rfl : .recording id claim answer = next := Option.some.inj (hp.symm.trans heq)
    exact ⟨hown, Or.inl (Nat.succ_pos 1)⟩
  rcases Inv.subscribe_alone hinv hc now with ⟨s, hstep⟩ | hstep | ⟨-, hstep⟩
  · obtain ⟨hserver, answer, hanswer⟩ :=
      c.spells_createItems hinv.faultless hbooks.isOpen h.items hown id s
    rw [hstep]
    exact ⟨hserver, fun next heq => hrecording _ answer next hanswer heq⟩
  · obtain ⟨hserver, answer, hanswer⟩ :=
      c.counted.spells_opened hinv.faultless hbooks.isOpen h.items hown id
    rw [hstep]
    exact ⟨hserver, fun next heq => hrecording _ answer next hanswer heq⟩
  · rw [hstep]
    refine ⟨h.items, fun next heq => ?_⟩
    obtain rfl := Option.some.inj heq
    exact ⟨hown, Or.inl (Nat.lt_succ_self 1)⟩

/-- **Step** of a lone call. -/
theorem Alone.step (h : Alone texts c (some call)) (now : Nat) :
    Alone texts (c.step now call).2.2 (c.step now call).2.1
      ∧ ∀ next, (c.step now call).2.1 = some next → Moves call now next := by
  obtain ⟨created, hinv⟩ := h.books
  have hown := h.call call rfl
  have hnext := Inv.step hinv now
  rw [List.append_nil] at hnext
  suffices hspells : (c.step now call).2.2.link.server.Spells texts
      ∧ ∀ next, (c.step now call).2.1 = some next → next.Spells texts ∧ Moves call now next from
    ⟨⟨⟨_, hnext⟩, hspells.1, fun next heq => (hspells.2 next heq).1⟩,
      fun next heq => (hspells.2 next heq).2⟩
  cases call with
  | asking own =>
    obtain rfl : own = texts := hown
    simp only [Client.step, Client.ask]
    cases hc : c.manager.connection? with
    | none => exact ⟨h.items, fun next heq => absurd heq (by simp)⟩
    | some found =>
      obtain ⟨id, n⟩ := found
      refine ⟨h.items, fun next heq => ?_⟩
      by_cases hempty : (n.claim own).2.1.isEmpty
      · simp [hempty] at heq
      · obtain rfl : .waiting id (n.claim own).2.1 = next := by simpa [hempty] using heq
        exact ⟨n.spells_claim own, Or.inl (Nat.lt_succ_self 2)⟩
  | waiting id claim => exact h.subscribe now
  | opening id claim due =>
    obtain ⟨n, hc⟩ := hinv.current rfl
    have hbooks := hinv.connected id n hc
    by_cases hdue : due ≤ now
    · simp only [Client.step, if_pos hdue]
      obtain ⟨hserver, answer, hanswer⟩ :=
        c.spells_opened hinv.faultless hbooks.isOpen h.items hown id
      refine ⟨hserver, fun next heq => ?_⟩
      obtain rfl : .recording id claim answer = next := Option.some.inj (hanswer.symm.trans heq)
      exact ⟨hown, Or.inl (Nat.succ_pos 0)⟩
    · simp only [Client.step, if_neg hdue]
      refine ⟨h.items, fun next heq => ?_⟩
      obtain rfl : .opening id claim due = next := Option.some.inj heq
      exact ⟨hown, Or.inr ⟨id, claim, due, rfl, Nat.lt_of_not_le hdue⟩⟩
  | recording id claim answer =>
    simp only [Client.step]
    rw [c.link_conclude id claim answer]
    exact ⟨h.items, fun next heq => absurd heq (by simp)⟩

/-- **A lone call** gets to its end, unless its subscription is not due yet. -/
theorem Alone.advance (h : Alone texts c (some call)) (now : Nat) :
    Alone texts (c.advance now call).2.2 (c.advance now call).2.1
      ∧ ∀ next, (c.advance now call).2.1 = some next →
        ∃ id claim due, next = .opening id claim due ∧ now < due := by
  fun_induction Client.advance c now call with
  | case1 c call notices c' hstep =>
    have hdone := (h.step now).1
    rw [hstep] at hdone
    exact ⟨hdone, fun next heq => absurd heq (by simp)⟩
  | case2 c call notices next c' hstep hless more next' c'' hmore ih =>
    have hon := (h.step now).1
    rw [hstep] at hon
    have hend := ih hon
    rw [hmore] at hend
    exact hend
  | case3 c call notices next c' hstep hstays =>
    obtain ⟨hon, hmoves⟩ := h.step now
    rw [hstep] at hon hmoves
    refine ⟨hon, fun own heq => ?_⟩
    obtain rfl : next = own := Option.some.inj heq
    rcases hmoves next rfl with hless | hopening
    · exact absurd hless hstays
    · exact hopening

/-- Once its subscription is due, a call goes on to its end. -/
theorem advance_due (c : Client) (id : ConnectionId) (claim : Claim) {due now : Nat}
    (hdue : due ≤ now) : (c.advance now (.opening id claim due)).2.1 = none := by
  obtain ⟨answer, hopened⟩ : ∃ answer,
      (c.opened id claim).2.1 = some (.recording id claim answer) := ⟨_, rfl⟩
  have hstep : c.step now (.opening id claim due) = ((c.opened id claim).1,
      some (.recording id claim answer), (c.opened id claim).2.2) := by
    rw [← hopened]
    simp [Client.step, hdue]
  have hless : (MonitorCall.recording id claim answer).remaining
      < (MonitorCall.opening id claim due).remaining := Nat.succ_pos 0
  rw [advance, hstep]
  simp only [if_pos hless]
  rw [advance]
  rfl

/-! ## Between calls -/

/-- What else changes on the server does not matter. -/
theorem Alone.set (h : Alone texts c none) {l : Link} (hsame : SameBooks c.link l)
    (hclosed : l.server.closed = c.link.server.closed) : Alone texts { c with link := l } none := by
  obtain ⟨created, hinv⟩ := h.books
  refine ⟨⟨created, hinv.set hsame fun _ => hclosed⟩, fun i hi => ?_, h.call⟩
  exact h.items i (hsame.items ▸ hi)

/-- A new connection has no items to spell. -/
theorem Alone.connect (h : Alone texts c none) (url : String) :
    Alone texts (c.connect url).2.2 none := by
  obtain ⟨created, hinv⟩ := h.books
  refine ⟨⟨created, hinv.connect url⟩, fun i hi => ?_, fun own heq => absurd heq (by simp)⟩
  rw [hinv.items_connect url] at hi
  exact absurd hi List.not_mem_nil

/-- A node can be monitored only over an open session. -/
theorem Alone.isOpen (h : Alone texts c none) {node : NodeId} (hnode : c.isMonitored node = true) :
    c.manager.isConnected = true ∧ c.link.server.closed = false := by
  obtain ⟨created, hinv⟩ := h.books
  unfold isMonitored at hnode
  cases hc : c.manager.connection? with
  | none => simp [hc] at hnode
  | some found =>
    obtain ⟨id, n⟩ := found
    exact ⟨by simp [Manager.isConnected, hc], (hinv.connected id n hc).isOpen⟩

/-- **Changes** of a monitored node are told once, in the words that name it first. -/
theorem Alone.changes_monitored (h : Alone texts c none) {node : NodeId}
    (hnode : c.isMonitored node = true) (value : Value) : ∃ text, firstText? texts node = some text
      ∧ c.link.server.changes node value = [⟨text, .good value⟩] := by
  obtain ⟨created, hinv⟩ := h.books
  have hlength := hinv.agrees.changes node value
  rw [if_pos hnode] at hlength
  obtain ⟨change, hchange⟩ := List.length_eq_one_iff.1 hlength
  have hmem : change ∈ c.link.server.changes node value := hchange ▸ List.mem_singleton_self change
  obtain ⟨i, hi, rfl⟩ := List.mem_map.1 hmem
  obtain ⟨hitem, hown⟩ := List.mem_filter.1 hi
  obtain rfl : i.node = node := of_decide_eq_true hown
  exact ⟨i.observer.spelling i.node, h.items i hitem, hchange⟩

/-- Changes of any other node are told to nobody. -/
theorem Alone.changes_other (h : Alone texts c none) {node : NodeId}
    (hnode : c.isMonitored node = false) (value : Value) : c.link.server.changes node value = [] := by
  obtain ⟨created, hinv⟩ := h.books
  have hlength := hinv.agrees.changes node value
  rw [hnode] at hlength
  exact List.eq_nil_of_length_eq_zero hlength

end Client

end FieldBridge
