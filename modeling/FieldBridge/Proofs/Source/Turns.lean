/-
  Turns of monitor calls.

  Calls run side by side on one connection, each with nodes of its own, and take turns.  The server may
  answer anything, so what a turn does is said for any answers:

  1. **Recording** — the answers make entries of the nodes that they create and of no others
     (`lookup_record`, `isSome_lookup_record`).

  2. **Turns** — a call goes on with its claim, or ends and gives it back (`Manager.Turned`,
     `turn_turned`).

  3. **Books** — the pending nodes of a connection are those that calls hold, each held once
     (`Reserves.turned`), and a call that ends has none of its own pending (`Reserves.returned`).

  4. **Entries** — a turn makes the entries of the nodes created (`Turned.enters`), and if answers are about
     the nodes asked for, no call holds a node that is monitored (`Apart.turned`).
-/

import Mathlib.Data.List.Infix
import FieldBridge.Proofs.Source.Traffic
import FieldBridge.Proofs.Source.Naming

namespace FieldBridge

/-! ## Recording -/

/-- Some good answer is about a node. -/
def Creates (results : List ItemResult) (node : NodeId) : Prop :=
  ∃ r ∈ results, r.status.isGood = true ∧ r.node = node

namespace Connection

variable {n : Connection} {claim : Claim} {results : List ItemResult} {node : NodeId}

/-- Putting a node in leaves the others. -/
theorem lookup_put_of_ne {other : NodeId} (m : Monitored) (h : other ≠ node) :
    (n.put node m).monitored.lookup other = n.monitored.lookup other := by
  show (n.monitored.filter (fun p => p.1 ≠ node) ++ [(node, m)]).lookup other = _
  have hother : (other == node) = false := beq_eq_false_iff_ne.2 h
  rw [List.lookup_append, lookup_without_of_ne n.monitored h, List.lookup_cons, hother]
  exact Option.or_none

theorem pending_record (n : Connection) (claim : Claim) (results : List ItemResult) :
    (n.record claim results).2.pending = n.pending := by
  induction results generalizing n with
  | nil => rfl
  | cons r rest ih =>
    rw [record]
    dsimp only
    split
    · exact ih _
    · exact ih n

/-- **Recording** leaves the nodes that no good answer is about. -/
theorem lookup_record (h : ¬ Creates results node) :
    (n.record claim results).2.monitored.lookup node = n.monitored.lookup node := by
  induction results generalizing n with
  | nil => rfl
  | cons r rest ih =>
    have hrest : ¬ Creates rest node := fun ⟨r', hr', hgood⟩ => h ⟨r', List.mem_cons_of_mem r hr', hgood⟩
    rw [record]
    dsimp only
    split
    · rename_i hgood
      have hne : node ≠ r.node := fun heq => h ⟨r, List.mem_cons_self, hgood, heq.symm⟩
      rw [ih hrest, lookup_put_of_ne _ hne]
    · exact ih hrest

/-- A node is monitored afterwards if it was before or some good answer is about it. -/
theorem isSome_lookup_record : ((n.record claim results).2.monitored.lookup node).isSome
    ↔ (n.monitored.lookup node).isSome ∨ Creates results node := by
  induction results generalizing n with
  | nil => simp [record, Creates]
  | cons r rest ih =>
    have hsplit : Creates (r :: rest) node
        ↔ (r.status.isGood = true ∧ r.node = node) ∨ Creates rest node := by simp [Creates]
    rw [record, hsplit]
    dsimp only
    split
    · rename_i hgood
      rw [ih]
      by_cases hnode : r.node = node
      · subst hnode
        simp [lookup_put, hgood]
      · rw [lookup_put_of_ne _ (Ne.symm hnode)]
        simp [hnode]
    · rename_i hbad
      rw [show ((n.record claim rest).2.monitored.lookup node).isSome ↔ _ from ih]
      simp [hbad]

/-- Erasing touches no claims, and takes nothing in. -/
theorem erase_keeps (n : Connection) (targets : List (NodeId × Monitored)) (statuses : List Status) :
    (n.erase targets statuses).2.pending = n.pending
      ∧ ∀ node, n.monitored.lookup node = none →
        (n.erase targets statuses).2.monitored.lookup node = none := by
  induction targets generalizing n statuses with
  | nil => cases statuses <;> exact ⟨rfl, fun node h => h⟩
  | cons t rest ih =>
    cases statuses with
    | nil => exact ⟨rfl, fun node h => h⟩
    | cons status statuses =>
      obtain ⟨hpending, hnone⟩ := ih (n.drop t.1) statuses
      refine ⟨hpending, fun node h => hnone node ?_⟩
      by_cases heq : node = t.1
      · rw [heq, lookup_drop]
      · exact (lookup_without_of_ne n.monitored heq).trans h

end Connection

/-! ## Turns -/

namespace MonitorCall

/-- The nodes that a call holds on a connection. -/
def held (id : ConnectionId) (call : MonitorCall) : List NodeId :=
  if call.connection? = some id then call.claim.nodes else []

/-- The answers that a call is about to record. -/
def results : MonitorCall → List ItemResult
  | .recording _ _ (.ok results) => results
  | _ => []

/-- The answers are about the nodes that were asked for. -/
def Faithful (call : MonitorCall) : Prop := ∀ r ∈ call.results, r.node ∈ call.claim.nodes

instance (call : MonitorCall) : Decidable call.Faithful :=
  inferInstanceAs (Decidable (∀ r ∈ call.results, r.node ∈ call.claim.nodes))

variable {call next : MonitorCall} {id other : ConnectionId}

theorem held_of_eq (h : call.connection? = some id) : call.held id = call.claim.nodes := if_pos h

theorem held_of_ne (h : call.connection? = some id) (hne : id ≠ other) : call.held other = [] :=
  if_neg fun heq => hne (Option.some.inj (h.symm.trans heq))

/-- A call that has not begun holds nothing. -/
@[simp] theorem held_asking (texts : List String) : (MonitorCall.asking texts).held id = [] :=
  if_neg (by simp [connection?])

theorem held_congr (hconnection : next.connection? = call.connection?) (hclaim : next.claim = call.claim) :
    next.held id = call.held id := by
  rw [held, held, hconnection, hclaim]

end MonitorCall

/-- How the turn of a call comes out: it goes on, or is told that the subscription which it waits for
cannot be created. -/
inductive Turn where
  | on
  | refused (e : TransportError)

/-- A turn of a call.  Where no subscription is being created, none can be refused. -/
def Client.turn (c : Client) (now : Nat) : Turn → MonitorCall → Client.Progress
  | .refused e, .opening id claim _ => ([.subscriptionFailed e.message], none,
      c.modify id fun n => { n.release claim with subscription := .absent })
  | _, call => c.step now call

/-- What a turn can come to, as far as connections are concerned. -/
inductive Manager.Turned (m : Manager) : MonitorCall → Option MonitorCall → Manager → Prop where
  /-- The call comes in while there is no connection. -/
  | lost (texts : List String) : Turned m (.asking texts) none m
  /-- It claims what it names and is free; with nothing to claim it ends. -/
  | claimed {id : ConnectionId} {n : Connection} (texts : List String)
    (hc : m.connection? = some (id, n)) : Turned m (.asking texts)
      (if (n.claim texts).2.1.isEmpty then none else some (.waiting id (n.claim texts).2.1))
      (m.modify id fun _ => (n.claim texts).2.2)
  /-- It goes on with its claim. -/
  | keeps {call next : MonitorCall} {id : ConnectionId} {f : Connection → Connection}
    (hown : call.connection? = some id) (hnext : next.connection? = some id)
    (hclaim : next.claim = call.claim)
    (hf : ∀ n, (f n).pending = n.pending ∧ (f n).monitored = n.monitored) :
    Turned m call (some next) (m.modify id f)
  /-- It ends, records the answers that it has got and gives its claim back. -/
  | returns {call : MonitorCall} {id : ConnectionId} {f : Connection → Connection}
    (hown : call.connection? = some id)
    (hf : ∀ n, m.get? id = some n → (f n).pending = (n.release call.claim).pending
      ∧ (f n).monitored = (n.record call.claim call.results).2.monitored) :
    Turned m call none (m.modify id f)

/-- A call may go on without a change of its connection. -/
theorem Manager.Turned.stays {m : Manager} {call next : MonitorCall} {id : ConnectionId}
    (hown : call.connection? = some id) (hnext : next.connection? = some id)
    (hclaim : next.claim = call.claim) : m.Turned call (some next) m := by
  have h : m.Turned call (some next) (m.modify id fun n => n) :=
    .keeps hown hnext hclaim fun _ => ⟨rfl, rfl⟩
  rwa [m.modify_self id] at h

namespace Client

variable {c : Client} {id : ConnectionId}

/-- A call asks for its items and keeps its claim. -/
theorem turned_createItems (call : MonitorCall) (hown : call.connection? = some id) (s : SubscriptionId) :
    c.manager.Turned call (c.createItems id call.claim s).2.1
      (c.createItems id call.claim s).2.2.manager :=
  .stays hown rfl rfl

/-- The same when its subscription has just been created. -/
theorem turned_opened (call : MonitorCall) (hown : call.connection? = some id) :
    c.manager.Turned call (c.opened id call.claim).2.1 (c.opened id call.claim).2.2.manager :=
  .keeps hown rfl rfl fun _ => ⟨rfl, rfl⟩

/-- **A turn** leaves a call with its claim, or ends it and gives the claim back. -/
theorem turn_turned (c : Client) (now : Nat) (turn : Turn) (call : MonitorCall)
    (hknown : ∀ id, call.connection? = some id → ∃ n, c.manager.get? id = some n) :
    c.manager.Turned call (c.turn now turn call).2.1 (c.turn now turn call).2.2.manager := by
  have hstep : c.manager.Turned call (c.step now call).2.1 (c.step now call).2.2.manager := by
    cases call with
    | asking texts =>
      simp only [Client.step, Client.ask]
      cases hc : c.manager.connection? with
      | none => exact .lost texts
      | some found => exact .claimed texts hc
    | waiting id claim =>
      obtain ⟨n, hn⟩ := hknown id rfl
      simp only [Client.step, Client.subscribe, hn]
      cases n.subscription with
      | ready s => exact turned_createItems (.waiting id claim) rfl s
      | opening => exact .stays rfl rfl rfl
      | absent =>
        dsimp only
        generalize c.link.beginSubscription = begun
        obtain ⟨answer, link⟩ := begun
        cases answer with
        | error e => exact .returns rfl fun n _ => ⟨rfl, rfl⟩
        | ok delay =>
          cases delay with
          | zero => exact turned_opened (c := { c with link }) (.waiting id claim) rfl
          | succ delay => exact .keeps rfl rfl rfl fun n => ⟨rfl, rfl⟩
    | opening id claim due =>
      simp only [Client.step]
      split
      · exact turned_opened (.opening id claim due) rfl
      · exact .stays rfl rfl rfl
    | recording id claim answer =>
      obtain ⟨n, hn⟩ := hknown id rfl
      cases answer with
      | error e => exact .returns rfl fun n _ => ⟨rfl, rfl⟩
      | ok results =>
        simp only [Client.step, Client.conclude, hn]
        refine .returns rfl fun n' hn' => ?_
        obtain rfl : n = n' := Option.some.inj (hn.symm.trans hn')
        refine ⟨?_, rfl⟩
        show ((n.record claim results).2.release claim).pending = (n.release claim).pending
        simp only [Connection.release, Connection.pending_record]
  cases turn with
  | on => exact hstep
  | refused e =>
    cases call with
    | opening id claim due => exact .returns rfl fun n _ => ⟨rfl, rfl⟩
    | asking texts => exact hstep
    | waiting id claim => exact hstep
    | recording id claim answer => exact hstep

end Client

/-! ## Books of the nodes held -/

/-- The nodes that calls hold on a connection. -/
def claimedOn (id : ConnectionId) (calls : List MonitorCall) : List NodeId := calls.flatMap (·.held id)

/-- The pending nodes of every connection are those that calls hold, each held once. -/
structure Reserves (m : Manager) (calls : List MonitorCall) : Prop where
  known : ∀ call ∈ calls, ∀ id, call.connection? = some id → ∃ n, m.get? id = some n
  pending : ∀ id n, m.get? id = some n → n.pending.Perm (claimedOn id calls)
  nodup : ∀ id n, m.get? id = some n → n.pending.Nodup

/-- No call holds a node that is monitored. -/
def Apart (m : Manager) (calls : List MonitorCall) : Prop :=
  ∀ id n, m.get? id = some n → ∀ node ∈ claimedOn id calls, n.monitored.lookup node = none

variable {m m' : Manager} {call : MonitorCall} {calls rest : List MonitorCall} {next : Option MonitorCall}
  {id : ConnectionId} {f : Connection → Connection}

theorem claimedOn_perm {calls' : List MonitorCall} (hperm : calls.Perm calls') :
    (claimedOn id calls).Perm (claimedOn id calls') :=
  hperm.flatMap_right _

/-- What a changed connection was before. -/
theorem Manager.get?_modify_eq_some {other : ConnectionId} {n' : Connection}
    (h : (m.modify id f).get? other = some n') :
    ∃ n, m.get? other = some n ∧ n' = if id = other then f n else n := by
  rw [get?_modify] at h
  obtain ⟨n, hn, heq⟩ := Option.map_eq_some_iff.1 h
  exact ⟨n, hn, heq.symm⟩

/-- A connection stays where it is. -/
theorem Manager.exists_get?_modify {other : ConnectionId} (h : ∃ n, m.get? other = some n) :
    ∃ n, (m.modify id f).get? other = some n := by
  obtain ⟨n, hn⟩ := h
  exact ⟨_, by rw [get?_modify, hn]; rfl⟩

theorem Reserves.perm {calls' : List MonitorCall} (h : Reserves m calls) (hperm : calls.Perm calls') :
    Reserves m calls' where
  known := fun call hcall => h.known call (hperm.mem_iff.2 hcall)
  pending := fun id n hn => (h.pending id n hn).trans (claimedOn_perm hperm)
  nodup := h.nodup

theorem Apart.perm {calls' : List MonitorCall} (h : Apart m calls) (hperm : calls.Perm calls') :
    Apart m calls' :=
  fun id n hn node hnode => h id n hn node ((claimedOn_perm hperm).mem_iff.2 hnode)

/-- One call changes one connection. -/
theorem Reserves.change (h : Reserves m (call :: rest)) (hid : ∃ n, m.get? id = some n)
    (hown : ∀ other, id ≠ other → call.held other = []) (hnext : ∀ c ∈ next, c.connection? = some id)
    (hf : ∀ n, m.get? id = some n → n.pending.Perm (call.held id ++ claimedOn id rest) →
      n.pending.Nodup → (f n).pending.Perm (claimedOn id next.toList ++ claimedOn id rest)
        ∧ (f n).pending.Nodup) :
    Reserves (m.modify id f) (next.toList ++ rest) := by
  have hpending : ∀ other n, (m.modify id f).get? other = some n →
      n.pending.Perm (claimedOn other (next.toList ++ rest)) ∧ n.pending.Nodup := by
    intro other n' hn'
    obtain ⟨n, hn, rfl⟩ := Manager.get?_modify_eq_some hn'
    have hperm : n.pending.Perm (call.held other ++ claimedOn other rest) := h.pending other n hn
    have hsplit : claimedOn other (next.toList ++ rest)
        = claimedOn other next.toList ++ claimedOn other rest := List.flatMap_append
    rw [hsplit]
    by_cases hother : id = other
    · subst hother
      rw [if_pos rfl]
      exact hf n hn hperm (h.nodup id n hn)
    · have hnone : claimedOn other next.toList = [] := by
        refine List.flatMap_eq_nil_iff.2 fun c hc => ?_
        exact MonitorCall.held_of_ne (hnext c (Option.mem_toList.1 hc)) hother
      rw [hown other hother] at hperm
      rw [if_neg hother, hnone]
      exact ⟨hperm, h.nodup other n hn⟩
  refine ⟨fun c hc own hconnection => ?_, fun other n hn => (hpending other n hn).1,
    fun other n hn => (hpending other n hn).2⟩
  rcases List.mem_append.1 hc with hc | hc
  · obtain rfl : id = own :=
      Option.some.inj ((hnext c (Option.mem_toList.1 hc)).symm.trans hconnection)
    exact Manager.exists_get?_modify hid
  · exact Manager.exists_get?_modify (h.known c (List.mem_cons_of_mem call hc) own hconnection)

/-- What a call claims it holds. -/
theorem claimedOn_waiting (id : ConnectionId) (claim : Claim) :
    claimedOn id (if claim.isEmpty then none else some (MonitorCall.waiting id claim)).toList
      = claim.nodes := by
  cases claim with
  | nil => rfl
  | cons p rest =>
    show (MonitorCall.waiting id (p :: rest)).held id ++ [] = _
    rw [List.append_nil]
    exact MonitorCall.held_of_eq rfl

/-- **A turn** keeps the books. -/
theorem Reserves.turned (h : Reserves m (call :: rest)) (hturn : m.Turned call next m') :
    Reserves m' (next.toList ++ rest) := by
  cases hturn with
  | lost texts => exact ⟨fun c hc => h.known c (List.mem_cons_of_mem _ hc),
      fun id n hn => by simpa [claimedOn] using h.pending id n hn, h.nodup⟩
  | @claimed id n texts hc =>
    have hget := (Manager.connection?_eq_some.1 hc).2
    obtain ⟨hdistinct, hfree⟩ := n.nodup_claim texts
    refine h.change ⟨n, hget⟩ (fun other _ => MonitorCall.held_asking texts) (fun c hc => ?_) ?_
    · obtain ⟨-, rfl⟩ : (n.claim texts).2.1.isEmpty = false
          ∧ MonitorCall.waiting id (n.claim texts).2.1 = c := by
        cases hempty : (n.claim texts).2.1.isEmpty <;> simp_all
      rfl
    · intro n' hn' hpending hnodup
      obtain rfl : n = n' := Option.some.inj (hget.symm.trans hn')
      rw [MonitorCall.held_asking, List.nil_append] at hpending
      rw [claimedOn_waiting]
      refine ⟨?_, ?_⟩
      · exact (hpending.append_right _).trans List.perm_append_comm
      · refine List.nodup_append.2 ⟨hnodup, hdistinct, fun a ha b hb hab => ?_⟩
        exact (hfree b hb).2 (hab ▸ ha)
  | @keeps _ next id f hown hnext hclaim hf =>
    have hheld : claimedOn id (some next).toList = call.held id := by
      show next.held id ++ [] = _
      rw [List.append_nil]
      exact MonitorCall.held_congr (hnext.trans hown.symm) hclaim
    refine h.change (h.known call List.mem_cons_self id hown)
      (fun other hne => MonitorCall.held_of_ne hown hne) (fun c hc => ?_) fun n _ hpending hnodup => ?_
    · obtain rfl := Option.some.inj hc
      exact hnext
    · rw [(hf n).1, hheld]
      exact ⟨hpending, hnodup⟩
  | @returns _ id f hown hf =>
    refine h.change (h.known call List.mem_cons_self id hown)
      (fun other hne => MonitorCall.held_of_ne hown hne) (fun c hc => absurd hc (by simp)) ?_
    intro n hn hpending hnodup
    rw [MonitorCall.held_of_eq hown] at hpending
    rw [(hf n hn).1]
    refine ⟨Connection.pending_release hpending (hpending.nodup_iff.1 hnodup), ?_⟩
    exact hnodup.sublist List.filter_sublist

/-- No node is held by two calls. -/
theorem Reserves.disjoint (h : Reserves m calls) (id : ConnectionId) :
    calls.Pairwise fun a b => (a.held id).Disjoint (b.held id) := by
  by_cases hid : ∃ n, m.get? id = some n
  · obtain ⟨n, hn⟩ := hid
    have hclaimed : (claimedOn id calls).Nodup := (h.pending id n hn).nodup_iff.1 (h.nodup id n hn)
    exact (List.nodup_flatMap.1 hclaimed).2
  · -- on no connection there are no claims
    refine List.pairwise_of_forall_mem_list fun a ha b _ => ?_
    have hnone : a.held id = [] := if_neg fun hown => hid (h.known a ha id hown)
    rw [hnone]
    exact List.disjoint_nil_left _

/-- A call that ends has nothing pending. -/
theorem Reserves.returned (h : Reserves m (call :: rest)) (hturn : m.Turned call none m')
    {n : Connection} (hn : m'.get? id = some n) : ∀ node ∈ call.held id, node ∉ n.pending := by
  have hafter : Reserves m' rest := h.turned hturn
  intro node hnode hpending
  have hother : node ∈ claimedOn id rest := (hafter.pending id n hn).mem_iff.1 hpending
  obtain ⟨other, hmem, hheld⟩ := List.mem_flatMap.1 hother
  exact (List.pairwise_cons.1 (h.disjoint id)).1 other hmem hnode hheld

/-! ## Entries -/

/-- What a turn of a call does to the entries of a connection: nothing unless the call is on it and ends,
and then it makes one for each node created. -/
structure Enters (call : MonitorCall) (next : Option MonitorCall) (id : ConnectionId) (n n' : Connection) :
    Prop where
  same : next ≠ none ∨ call.connection? ≠ some id → n'.monitored = n.monitored
  kept : ∀ node, ¬ Creates call.results node → n'.monitored.lookup node = n.monitored.lookup node
  made : next = none → call.connection? = some id → ∀ node, (n'.monitored.lookup node).isSome
    ↔ (n.monitored.lookup node).isSome ∨ Creates call.results node

/-- A turn that changes no entries. -/
theorem Enters.of_same {n n' : Connection} (hsame : n'.monitored = n.monitored)
    (hgoing : next ≠ none ∨ call.connection? ≠ some id) : Enters call next id n n' where
  same := fun _ => hsame
  kept := fun node _ => by rw [hsame]
  made := fun hnone hown => absurd hgoing (by simp [hnone, hown])

/-- If the answers are about the nodes asked for, the entries of other nodes stay. -/
theorem Enters.others {n n' : Connection} (h : Enters call next id n n') (hfaithful : call.Faithful)
    {node : NodeId} (hnode : node ∉ call.held id) :
    n'.monitored.lookup node = n.monitored.lookup node := by
  by_cases hown : call.connection? = some id
  · rw [MonitorCall.held_of_eq hown] at hnode
    exact h.kept node fun ⟨r, hr, _, heq⟩ => hnode (heq ▸ hfaithful r hr)
  · rw [h.same (.inr hown)]

/-- **Entries**: what a turn does to them. -/
theorem Manager.Turned.enters (hturn : m.Turned call next m') {n : Connection}
    (hn : m.get? id = some n) : ∃ n', m'.get? id = some n' ∧ Enters call next id n n' := by
  have hchanged : ∀ (own : ConnectionId) (f : Connection → Connection),
      (m.modify own f).get? id = some (if own = id then f n else n) := fun own f => by
    rw [Manager.get?_modify, hn, Option.map_some]
  cases hturn with
  | lost texts => exact ⟨n, hn, .of_same rfl (.inr (by simp [MonitorCall.connection?]))⟩
  | @claimed own n' texts hc =>
    refine ⟨_, hchanged _ _, .of_same ?_ (.inr (by simp [MonitorCall.connection?]))⟩
    split
    · rename_i heq
      subst heq
      obtain rfl : n' = n := Option.some.inj ((Manager.connection?_eq_some.1 hc).2.symm.trans hn)
      rfl
    · rfl
  | @keeps _ _ own f hown hnext hclaim hf =>
    refine ⟨_, hchanged _ _, .of_same ?_ (.inl (by simp))⟩
    split
    · exact (hf n).2
    · rfl
  | @returns _ own f hown hf =>
    refine ⟨_, hchanged _ _, ?_⟩
    by_cases heq : own = id
    · subst heq
      rw [if_pos rfl]
      obtain ⟨-, hentries⟩ := hf n hn
      exact {
        same := fun hgoing => absurd hgoing (by simp [hown])
        kept := fun node hnode => by rw [hentries, Connection.lookup_record hnode]
        made := fun _ _ node => by rw [hentries, Connection.isSome_lookup_record] }
    · rw [if_neg heq]
      exact .of_same rfl (.inr fun hid => heq (Option.some.inj (hown.symm.trans hid)))

/-- A turn makes no connections. -/
theorem Manager.Turned.exists_get? (hturn : m.Turned call next m') {n' : Connection}
    (hn' : m'.get? id = some n') : ∃ n, m.get? id = some n := by
  cases hturn with
  | lost texts => exact ⟨n', hn'⟩
  | claimed texts hc => exact (Manager.get?_modify_eq_some hn').imp fun n h => h.1
  | keeps hown hnext hclaim hf => exact (Manager.get?_modify_eq_some hn').imp fun n h => h.1
  | returns hown hf => exact (Manager.get?_modify_eq_some hn').imp fun n h => h.1

/-- **A turn** keeps what calls hold apart from what is monitored. -/
theorem Apart.turned (h : Apart m (call :: rest)) (hbooks : Reserves m (call :: rest))
    (hfaithful : call.Faithful) (hturn : m.Turned call next m') :
    Apart m' (next.toList ++ rest) := by
  intro id n' hn' node hnode
  obtain ⟨n, hn⟩ := hturn.exists_get? hn'
  obtain ⟨n'', hn'', henters⟩ := hturn.enters hn
  obtain rfl : n' = n'' := Option.some.inj (hn'.symm.trans hn'')
  rw [claimedOn, List.flatMap_append] at hnode
  rcases List.mem_append.1 hnode with hnext | hrest
  · cases hturn with
    | lost texts => exact absurd hnext List.not_mem_nil
    | returns hown hf => exact absurd hnext List.not_mem_nil
    | @claimed own old texts hc =>
      -- what is claimed is free
      rw [henters.others hfaithful (by simp)]
      by_cases heq : own = id
      · subst heq
        obtain rfl : old = n := Option.some.inj ((Manager.connection?_eq_some.1 hc).2.symm.trans hn)
        have hclaimed : node ∈ (old.claim texts).2.1.nodes := claimedOn_waiting own _ ▸ hnext
        exact lookup_eq_none_iff_notMem.2 ((old.nodup_claim texts).2 node hclaimed).1
      · obtain ⟨c, hc, hheld⟩ := List.mem_flatMap.1 hnext
        cases hempty : (old.claim texts).2.1.isEmpty with
        | true => simp [hempty] at hc
        | false =>
          obtain rfl : c = .waiting own (old.claim texts).2.1 := by simpa [hempty] using hc
          rw [MonitorCall.held_of_ne rfl heq] at hheld
          exact absurd hheld List.not_mem_nil
    | @keeps _ next own f hown hgoing hclaim hf =>
      have hheld : node ∈ call.held id := by
        have hnode' : node ∈ next.held id := by simpa using hnext
        rwa [MonitorCall.held_congr (hgoing.trans hown.symm) hclaim] at hnode'
      rw [henters.same (.inl (by simp))]
      exact h id n hn node (List.mem_append_left _ hheld)
  · obtain ⟨other, hmem, hheld⟩ := List.mem_flatMap.1 hrest
    have hnot : node ∉ call.held id := fun hown =>
      (List.pairwise_cons.1 (hbooks.disjoint id)).1 other hmem hown hheld
    rw [henters.others hfaithful hnot]
    exact h id n hn node (List.mem_append_right _ hrest)

end FieldBridge
