/-
  The sessions of a manager.

  1. **Watching** — a watched transport writes down every call, with the server as it was when the call was
     made, and does nothing else (`connect_watched`).  What a transport answers is left open, and between
     the calls of the manager anything may happen to the server.

  2. **Course** — the calls of a run follow each other in three ways only: the open session is closed, or,
     with none open, an attempt at a session fails or opens one (`Course`, `inv_run`).

  3. **Sessions** — so at most one session is open at any time, a session is asked for only on the first
     endpoint just discovered that does not protect its messages, and every session but the current one
     was closed once, after one attempt to delete each of its subscriptions (`orderly_run`).
-/

import Mathlib.Data.List.Infix
import FieldBridge.Proofs.Source.Entries

namespace FieldBridge

variable {σ α : Type}

/-! ## Watching -/

/-- A call on a server. -/
inductive ServerCall where
  | discover (url : String) (reply : Except TransportError (List Endpoint))
  /-- A session is asked for. -/
  | connect (endpoint : Endpoint) (reply : Except TransportError Unit)
  | delete (session : ConnectionId) (subscription : SubscriptionId)
  | close (session : ConnectionId)

namespace ServerCall

/-- The session that a call is made on. -/
def session? : ServerCall → Option ConnectionId
  | delete session _ => some session
  | close session => some session
  | _ => none

/-- The call opens a session. -/
def opens : ServerCall → Bool
  | connect _ (.ok ()) => true
  | _ => false

end ServerCall

/-- The calls made, the oldest first, each with the server as it was then. -/
abbrev CallLog (σ : Type) := List (ServerCall × σ)

/-- A server and the calls made on it. -/
structure Watched (σ : Type) where
  server : σ
  calls : CallLog σ := []

/-- Write down a call that was answered. -/
def Watched.note (w : Watched σ) (call : α → ServerCall) (answer : α × σ) : α × Watched σ :=
  (answer.1, { server := answer.2, calls := w.calls ++ [(call answer.1, w.server)] })

/-- The transport that writes its calls down. -/
def Transport.watched (t : Transport σ) : Transport (Watched σ) where
  discover url w := w.note (.discover url) (t.discover url w.server)
  connect endpoint w := w.note (.connect endpoint) (t.connect endpoint w.server)
  subscriptions session w := t.subscriptions session w.server
  deleteSubscription session id w :=
    w.note (fun _ => .delete session id) (t.deleteSubscription session id w.server)
  close session w := w.note (fun _ => .close session) (t.close session w.server)

namespace Manager

variable (t : Transport σ)

theorem deleteEach_watched (session : ConnectionId) (w : Watched σ) (ids : List SubscriptionId) :
    deleteEach t session w.server ids = ((deleteEach t.watched session w ids).1,
      (deleteEach t.watched session w ids).2.server) := by
  induction ids generalizing w with
  | nil => rfl
  | cons id rest ih =>
    have hrest := ih (t.watched.deleteSubscription session id w).2
    simp only [Transport.watched, Watched.note] at hrest
    simp only [deleteEach, Transport.watched, Watched.note, hrest]

theorem closeCurrent_watched (m : Manager) (w : Watched σ) :
    m.closeCurrent t w.server = ((m.closeCurrent t.watched w).1, (m.closeCurrent t.watched w).2.1,
      (m.closeCurrent t.watched w).2.2.server) := by
  unfold closeCurrent
  split
  · rfl
  · rename_i session _ _
    simp only [deleteEach_watched t session w]
    rfl

theorem establish_watched (url : String) (w : Watched σ) :
    establish t url w.server
      = ((establish t.watched url w).1, (establish t.watched url w).2.server) := by
  rcases hfound : t.discover url w.server with ⟨_ | endpoints, server⟩
  · simp [establish, Transport.watched, Watched.note, hfound]
  · cases hplain : endpoints.find? fun e => e.mode = .plain with
    | none => simp [establish, Transport.watched, Watched.note, hfound, hplain]
    | some endpoint =>
      rcases hopened : t.connect endpoint server with ⟨_ | _, server'⟩
      all_goals simp [establish, Transport.watched, Watched.note, hfound, hplain, hopened]

/-- Being watched changes nothing about connecting. -/
theorem connect_watched (url : String) (m : Manager) (w : Watched σ) :
    m.connect t url w.server = ((m.connect t.watched url w).1, (m.connect t.watched url w).2.1,
      (m.connect t.watched url w).2.2.1, (m.connect t.watched url w).2.2.2.server) := by
  have hestablish := establish_watched t url (m.closeCurrent t.watched w).2.2
  rcases hanswer : establish t.watched url (m.closeCurrent t.watched w).2.2 with ⟨_ | _, w'⟩
  all_goals
    rw [hanswer] at hestablish
    simp [connect, closeCurrent_watched, hestablish, hanswer]

end Manager

/-! ## Course -/

namespace CallLog

variable {calls block : CallLog σ} {session : ConnectionId}

/-- The sessions opened so far.  The next one is on the connection of this number. -/
def opened (calls : CallLog σ) : Nat := calls.countP (·.1.opens)

/-- The calls on a session. -/
def on (session : ConnectionId) (calls : CallLog σ) : CallLog σ :=
  calls.filter (·.1.session? = some session)

@[simp] theorem opened_append (calls block : CallLog σ) :
    opened (calls ++ block) = opened calls + opened block := List.countP_append

@[simp] theorem on_append (session : ConnectionId) (calls block : CallLog σ) :
    on session (calls ++ block) = on session calls ++ on session block := List.filter_append ..

/-- Whether a session is closed shows among the calls on it. -/
theorem close_mem_on : .close session ∈ (on session calls).map Prod.fst
    ↔ .close session ∈ calls.map Prod.fst := by
  simp only [List.mem_map, on, List.mem_filter, decide_eq_true_eq]
  constructor
  · rintro ⟨call, ⟨hcall, -⟩, hclose⟩
    exact ⟨call, hcall, hclose⟩
  · rintro ⟨call, hcall, hclose⟩
    exact ⟨call, ⟨hcall, by rw [hclose]; rfl⟩, hclose⟩

/-- The calls that close a session: one attempt to delete each subscription listed when the first of
them is made, and one to close the session. -/
def Closing (t : Transport σ) (session : ConnectionId) (block : CallLog σ) : Prop :=
  ∃ first ∈ block.head?,
    block.map Prod.fst = (t.subscriptions session first.2).map (.delete session) ++ [.close session]

/-- The calls of an attempt at a session, and the endpoint of the session opened if one was. -/
inductive Attempt : CallLog σ → Option Endpoint → Prop
  | undiscovered (url : String) (e : TransportError) (s : σ) :
    Attempt [(.discover url (.error e), s)] none
  | unsuitable (url : String) (endpoints : List Endpoint) (s : σ)
    (hnone : endpoints.find? (fun e => e.mode = .plain) = none) :
    Attempt [(.discover url (.ok endpoints), s)] none
  | refused (url : String) (endpoints : List Endpoint) (endpoint : Endpoint) (e : TransportError)
    (s s' : σ) (hfirst : endpoints.find? (fun e => e.mode = .plain) = some endpoint) :
    Attempt [(.discover url (.ok endpoints), s), (.connect endpoint (.error e), s')] none
  | succeeded (url : String) (endpoints : List Endpoint) (endpoint : Endpoint) (s s' : σ)
    (hfirst : endpoints.find? (fun e => e.mode = .plain) = some endpoint) :
    Attempt [(.discover url (.ok endpoints), s), (.connect endpoint (.ok ()), s')] (some endpoint)

/-- How calls may follow each other, and the session that is then open. -/
inductive Course (t : Transport σ) : CallLog σ → Option ConnectionId → Prop
  | start : Course t [] none
  | close {calls block : CallLog σ} {session : ConnectionId} (hcourse : Course t calls (some session))
    (hblock : Closing t session block) : Course t (calls ++ block) none
  | attempt {calls block : CallLog σ} {outcome : Option Endpoint} (hcourse : Course t calls none)
    (hblock : Attempt block outcome) :
    Course t (calls ++ block) (outcome.map fun _ => ⟨opened calls⟩)

variable {t : Transport σ} {outcome : Option Endpoint} {current : Option ConnectionId}

/-- Closing calls are on the session closed. -/
theorem Closing.session? (h : Closing t session block) :
    ∀ call ∈ block, call.1.session? = some session := by
  obtain ⟨first, _, hcalls⟩ := h
  intro call hcall
  have hmem := List.mem_map_of_mem (f := Prod.fst) hcall
  rw [hcalls, List.mem_append, List.mem_map, List.mem_singleton] at hmem
  obtain ⟨_, _, hdelete⟩ | hclose := hmem
  · rw [← hdelete]
    rfl
  · rw [hclose]
    rfl

/-- Among them the session is closed once. -/
theorem Closing.close_mem (h : Closing t session block) :
    .close session ∈ block.map Prod.fst := by
  obtain ⟨first, _, hcalls⟩ := h
  rw [hcalls]
  exact List.mem_append_right _ (List.mem_singleton_self _)

theorem Closing.on_self (h : Closing t session block) : on session block = block :=
  List.filter_eq_self.2 fun call hcall => decide_eq_true (h.session? call hcall)

theorem Closing.on_of_ne {other : ConnectionId} (h : Closing t session block) (hne : session ≠ other) :
    on other block = [] := by
  refine List.filter_eq_nil_iff.2 fun call hcall => ?_
  rw [h.session? call hcall]
  simpa using hne

theorem Closing.opened_eq (h : Closing t session block) : opened block = 0 := by
  refine List.countP_eq_zero.2 fun call hcall hopens => ?_
  have hsession := h.session? call hcall
  cases hcall : call.1 <;> simp_all [ServerCall.opens, ServerCall.session?]

theorem Attempt.on_eq_nil (h : Attempt block outcome) (session : ConnectionId) : on session block = [] := by
  cases h <;> rfl

theorem Attempt.opened_eq (h : Attempt block outcome) :
    opened block = if outcome.isSome then 1 else 0 := by
  cases h <;> rfl

/-- In an attempt a session is asked for on the endpoint found among those just discovered. -/
theorem Attempt.asked (h : Attempt block outcome) {front : CallLog σ} {endpoint : Endpoint}
    {reply : Except TransportError Unit} {s : σ}
    (hbefore : front ++ [(.connect endpoint reply, s)] <+: block) :
    ∃ url endpoints s', front = [(.discover url (.ok endpoints), s')]
      ∧ endpoints.find? (fun e => e.mode = .plain) = some endpoint := by
  cases h with
  | undiscovered url e s' | unsuitable url endpoints s' hnone =>
    rcases front with _ | ⟨first, _ | ⟨second, rest⟩⟩ <;> simp at hbefore
  | refused url endpoints endpoint' e s' s'' hfirst
  | succeeded url endpoints endpoint' s' s'' hfirst =>
    -- the session is asked for by the second call of the two
    rcases front with _ | ⟨first, _ | ⟨second, rest⟩⟩
    · simp at hbefore
    · simp only [List.cons_append, List.nil_append, List.cons_prefix_cons, Prod.mk.injEq,
        ServerCall.connect.injEq] at hbefore
      obtain ⟨rfl, ⟨⟨rfl, rfl⟩, rfl⟩, -⟩ := hbefore
      exact ⟨url, endpoints, s', rfl, hfirst⟩
    · simp at hbefore

/-! ## Sessions -/

/-- The open session is the one opened last. -/
theorem Course.current_eq (h : Course t calls current) (hcurrent : current = some session) :
    session.index + 1 = opened calls := by
  cases h with
  | start | close => cases hcurrent
  | attempt hcourse hblock =>
    obtain ⟨endpoint, rfl, rfl⟩ := Option.map_eq_some_iff.1 hcurrent
    rw [opened_append, hblock.opened_eq]
    rfl

/-- No call is made on a session while it is open. -/
theorem Course.on_eq_nil (h : Course t calls current)
    (hsession : current = some session ∨ opened calls ≤ session.index) : on session calls = [] := by
  induction h with
  | start => rfl
  | @close calls block closed hcourse hblock ih =>
    -- the session just closed was the last one opened, so a later one is another
    have hlast := hcourse.current_eq rfl
    rw [opened_append, hblock.opened_eq] at hsession
    have hne : closed ≠ session := by
      rintro rfl
      simp at hsession
      omega
    rw [on_append, hblock.on_of_ne hne, ih (.inr (by simpa using hsession))]
    rfl
  | @attempt calls block outcome hcourse hblock ih =>
    rw [on_append, hblock.on_eq_nil, List.append_nil]
    refine ih (.inr ?_)
    obtain hcurrent | hle := hsession
    · obtain ⟨endpoint, -, rfl⟩ := Option.map_eq_some_iff.1 hcurrent
      exact le_rfl
    · rw [opened_append] at hle
      omega

/-- The calls on a session that was opened and is no longer open are those that close it. -/
theorem Course.closing (h : Course t calls current) (hopened : session.index < opened calls)
    (hcurrent : current ≠ some session) : Closing t session (on session calls) := by
  induction h with
  | start => simp [opened] at hopened
  | @close calls block closed hcourse hblock ih =>
    rw [opened_append, hblock.opened_eq] at hopened
    rw [on_append]
    by_cases hsame : closed = session
    · -- until now no call was made on it
      subst hsame
      rw [hcourse.on_eq_nil (.inl rfl), hblock.on_self]
      exact hblock
    · rw [hblock.on_of_ne hsame, List.append_nil]
      exact ih hopened (by simpa using hsame)
  | @attempt calls block outcome hcourse hblock ih =>
    rw [opened_append, hblock.opened_eq] at hopened
    rw [on_append, hblock.on_eq_nil, List.append_nil]
    refine ih ?_ (by simp)
    cases outcome with
    | none => simpa using hopened
    | some endpoint =>
      have hne : session.index ≠ opened calls := by
        intro hindex
        exact hcurrent (by simp [← hindex])
      simp at hopened
      omega

/-- Something that ends within two lists one after the other ends in the first or in the second. -/
theorem snoc_prefix_cases {before front back : List α} {x : α}
    (h : before ++ [x] <+: front ++ back) :
    before ++ [x] <+: front ∨ ∃ rest, before = front ++ rest ∧ rest ++ [x] <+: back := by
  obtain hfront | hback := List.prefix_or_prefix_of_prefix h (List.prefix_append front back)
  · exact .inl hfront
  · obtain hsame | ⟨rest, rfl⟩ := List.prefix_concat_iff.1 hback
    · exact .inl (hsame ▸ List.prefix_rfl)
    · rw [List.append_assoc] at h
      exact .inr ⟨rest, rfl, (List.prefix_append_right_inj front).1 h⟩

/-- When a session is asked for, every session opened before is closed, and it is asked for on the
endpoint found among those just discovered. -/
theorem Course.asked (h : Course t calls current) {before : CallLog σ} {endpoint : Endpoint}
    {reply : Except TransportError Unit} {s : σ}
    (hbefore : before ++ [(.connect endpoint reply, s)] <+: calls) :
    (∃ front url endpoints s', before = front ++ [(.discover url (.ok endpoints), s')]
        ∧ endpoints.find? (fun e => e.mode = .plain) = some endpoint)
      ∧ ∀ earlier : ConnectionId, earlier.index < opened before →
        .close earlier ∈ before.map Prod.fst := by
  induction h with
  | start => simp at hbefore
  | @close calls block closed hcourse hblock ih =>
    obtain hcalls | ⟨rest, -, hrest⟩ := snoc_prefix_cases hbefore
    · exact ih hcalls
    · -- while a session is closed none is asked for
      have hasked := hrest.subset (List.mem_append_right rest (List.mem_singleton_self _))
      cases hblock.session? _ hasked
  | @attempt calls block outcome hcourse hblock ih =>
    obtain hcalls | ⟨rest, rfl, hrest⟩ := snoc_prefix_cases hbefore
    · exact ih hcalls
    · obtain ⟨url, endpoints, s', rfl, hfirst⟩ := hblock.asked hrest
      refine ⟨⟨calls, url, endpoints, s', rfl, hfirst⟩, fun earlier hearlier => ?_⟩
      have hopened : earlier.index < opened calls := by
        rw [opened_append] at hearlier
        exact hearlier
      have hclosing := hcourse.closing hopened (by simp)
      rw [List.map_append]
      exact List.mem_append_left _ (close_mem_on.1 hclosing.close_mem)

end CallLog

/-! ## Runs -/

open CallLog

/-- A manager and the server it calls. -/
structure Managed (σ : Type) where
  manager : Manager := {}
  watched : Watched σ

/-- What can happen. -/
inductive Managed.Event (σ : Type) where
  | connect (url : String)
  | disconnect
  /-- Something that the manager does not do, such as monitoring on its session. -/
  | elsewhere (change : σ → σ)

namespace Manager

variable (t : Transport σ)

/-- Deleting subscriptions tries each once, from the server as it is. -/
theorem exists_deleteEach (session : ConnectionId) (w : Watched σ) (ids : List SubscriptionId) :
    ∃ block, (deleteEach t.watched session w ids).2.calls = w.calls ++ block
      ∧ block.map Prod.fst = ids.map (.delete session)
      ∧ ∀ last, ∃ first ∈ (block ++ [(last, (deleteEach t.watched session w ids).2.server)]).head?,
        first.2 = w.server := by
  induction ids generalizing w with
  | nil => exact ⟨[], by simp [deleteEach], rfl, fun last => ⟨_, rfl, rfl⟩⟩
  | cons id rest ih =>
    obtain ⟨block, hcalls, hblock, -⟩ := ih (t.watched.deleteSubscription session id w).2
    refine ⟨(.delete session id, w.server) :: block, ?_, ?_, fun last => ⟨_, rfl, rfl⟩⟩
    · simp only [deleteEach, hcalls]
      simp [Transport.watched, Watched.note]
    · simp [hblock]

/-- Closing a connection makes the closing calls of its session. -/
theorem exists_closing {m : Manager} {session : ConnectionId} {c : Connection}
    (hcurrent : m.connection? = some (session, c)) (w : Watched σ) :
    ∃ block, (m.closeCurrent t.watched w).2.2.calls = w.calls ++ block ∧ Closing t session block := by
  obtain ⟨block, hcalls, hblock, hfirst⟩ :=
    exists_deleteEach t session w (t.subscriptions session w.server)
  obtain ⟨first, hmem, hserver⟩ := hfirst (.close session)
  refine ⟨_, ?_, first, hmem, ?_⟩
  · simp only [closeCurrent, hcurrent]
    simp only [Transport.watched, Watched.note] at hcalls ⊢
    rw [hcalls, List.append_assoc]
  · rw [List.map_append, hblock, hserver]
    rfl

/-- Establishing a connection is an attempt at a session. -/
theorem exists_attempt (url : String) (w : Watched σ) :
    ∃ block answer server, establish t.watched url w = (answer, { server, calls := w.calls ++ block })
      ∧ Attempt block answer.toOption := by
  rcases hfound : t.discover url w.server with ⟨e | endpoints, server⟩
  · refine ⟨[(.discover url (.error e), w.server)], .error e, server, ?_, .undiscovered ..⟩
    simp [establish, Transport.watched, Watched.note, hfound]
  cases hfirst : endpoints.find? fun e => e.mode = .plain with
  | none =>
    refine ⟨[(.discover url (.ok endpoints), w.server)], .error (.noSuitableEndpoint url), server, ?_,
      .unsuitable _ _ _ hfirst⟩
    simp [establish, Transport.watched, Watched.note, hfound, hfirst]
  | some endpoint =>
    rcases hopened : t.connect endpoint server with ⟨e | _, server'⟩
    · refine ⟨[(.discover url (.ok endpoints), w.server), (.connect endpoint (.error e), server)],
        .error e, server', ?_, .refused _ _ _ _ _ _ hfirst⟩
      simp [establish, Transport.watched, Watched.note, hfound, hfirst, hopened]
    · refine ⟨[(.discover url (.ok endpoints), w.server), (.connect endpoint (.ok ()), server)],
        .ok endpoint, server', ?_, .succeeded _ _ _ _ _ hfirst⟩
      simp [establish, Transport.watched, Watched.note, hfound, hfirst, hopened]

end Manager

namespace Managed

/-- One event. -/
def step (t : Transport σ) (m : Managed σ) : Event σ → Managed σ
  | .connect url =>
    let (_, _, manager, watched) := m.manager.connect t.watched url m.watched
    { manager, watched }
  | .disconnect =>
    let (_, manager, watched) := m.manager.disconnect t.watched m.watched
    { manager, watched }
  | .elsewhere change => { m with watched := { m.watched with server := change m.watched.server } }

/-- A run. -/
def run (t : Transport σ) (m : Managed σ) (events : List (Event σ)) : Managed σ :=
  events.foldl (step t) m

/-- The calls take their course, and the manager has a connection for every session opened. -/
structure Inv (t : Transport σ) (m : Managed σ) : Prop where
  course : Course t m.watched.calls m.manager.current
  length : m.manager.connections.length = opened m.watched.calls

variable {t : Transport σ} {m : Managed σ}

/-- A manager is connected exactly while a session is open. -/
theorem Inv.isConnected_eq (h : Inv t m) : m.manager.isConnected = m.manager.current.isSome := by
  cases hcurrent : m.manager.current with
  | none => simp [Manager.isConnected, Manager.connection?, hcurrent]
  | some session =>
    have hlast := h.course.current_eq hcurrent
    have hbound : session.index < m.manager.connections.length := by
      rw [h.length]
      omega
    have hconnection := Manager.connection?_eq_some.2 ⟨hcurrent, List.getElem?_eq_getElem hbound⟩
    rw [Manager.isConnected, hconnection]
    rfl

/-- Without a connection, disconnecting does nothing. -/
theorem step_disconnect_of_none (hnone : m.manager.connection? = none) :
    m.step t .disconnect = m := by
  simp only [step, Manager.disconnect, Manager.closeCurrent, hnone]

/-- With one, it closes the session. -/
theorem step_disconnect_of_some {session : ConnectionId} {c : Connection}
    (hcurrent : m.manager.connection? = some (session, c)) :
    ∃ block, (m.step t .disconnect).manager = { m.manager with current := none }
      ∧ (m.step t .disconnect).watched.calls = m.watched.calls ++ block ∧ Closing t session block := by
  obtain ⟨block, hcalls, hblock⟩ := Manager.exists_closing t hcurrent m.watched
  refine ⟨block, ?_, hcalls, hblock⟩
  simp only [step, Manager.disconnect, Manager.closeCurrent, hcurrent]

/-- Disconnecting keeps the invariant and leaves no session open. -/
theorem Inv.disconnect (h : Inv t m) :
    Inv t (m.step t .disconnect) ∧ (m.step t .disconnect).manager.current = none := by
  cases hconnection : m.manager.connection? with
  | none =>
    rw [step_disconnect_of_none hconnection]
    have hidle := h.isConnected_eq
    rw [Manager.isConnected, hconnection] at hidle
    have hnone : m.manager.current = none := by simpa using hidle.symm
    exact ⟨h, hnone⟩
  | some entry =>
    obtain ⟨session, c⟩ := entry
    obtain ⟨block, hmanager, hcalls, hblock⟩ := step_disconnect_of_some (t := t) hconnection
    have hcurrent := (Manager.connection?_eq_some.1 hconnection).1
    have hcourse := h.course
    rw [hcurrent] at hcourse
    refine ⟨⟨?_, ?_⟩, by rw [hmanager]⟩
    · rw [hmanager, hcalls]
      exact hcourse.close hblock
    · rw [hmanager, hcalls, opened_append, hblock.opened_eq]
      exact h.length

/-- Connecting disconnects and makes one attempt at a session, which then is the current one. -/
theorem step_connect (url : String) :
    ∃ block outcome, (m.step t (.connect url)).watched.calls
        = (m.step t .disconnect).watched.calls ++ block
      ∧ Attempt block outcome
      ∧ (m.manager.connect t.watched url m.watched).1 = outcome.isSome
      ∧ (m.step t (.connect url)).manager
        = outcome.elim (m.step t .disconnect).manager (m.step t .disconnect).manager.install := by
  obtain ⟨block, answer, server, hanswer, hblock⟩ :=
    Manager.exists_attempt t url (m.step t .disconnect).watched
  refine ⟨block, answer.toOption, ?_, hblock, ?_⟩
  all_goals
    simp only [step, Manager.disconnect] at hanswer
    cases answer
    all_goals simp [step, Manager.connect, Manager.disconnect, hanswer, Except.toOption]

/-- Connecting keeps the invariant. -/
theorem Inv.connect (h : Inv t m) (url : String) : Inv t (m.step t (.connect url)) := by
  obtain ⟨hdisconnected, hnone⟩ := h.disconnect
  obtain ⟨block, outcome, hcalls, hblock, -, hmanager⟩ := step_connect (t := t) (m := m) url
  have hcourse := hdisconnected.course
  rw [hnone] at hcourse
  have hattempt := hcourse.attempt hblock
  constructor
  · rw [hcalls, hmanager]
    cases outcome with
    | none => rwa [Option.elim, hnone]
    | some endpoint =>
      rw [Option.elim, Manager.install, hdisconnected.length]
      exact hattempt
  · rw [hcalls, hmanager, opened_append, hblock.opened_eq, ← hdisconnected.length]
    cases outcome with
    | none => rfl
    | some endpoint => simp [Manager.install]

/-- **Step**: every event keeps the invariant. -/
theorem inv_step (h : Inv t m) (event : Event σ) : Inv t (m.step t event) := by
  cases event with
  | connect url => exact h.connect url
  | disconnect => exact h.disconnect.1
  | elsewhere change => exact ⟨h.course, h.length⟩

/-- Nothing has happened. -/
theorem inv_start (t : Transport σ) (s : σ) : Inv t { watched := { server := s } } := ⟨.start, rfl⟩

/-- **Run**: so does every run. -/
theorem inv_run (h : Inv t m) (events : List (Event σ)) : Inv t (run t m events) := by
  induction events generalizing m with
  | nil => exact h
  | cons event rest ih => exact ih (inv_step h event)

/-- The sessions of a manager are in order. -/
structure Orderly (t : Transport σ) (m : Managed σ) : Prop where
  /-- A session is asked for right after a discovery, on the first endpoint found that does not protect
  its messages, and when all sessions opened before have been closed. -/
  asked : ∀ before endpoint reply s, before ++ [(.connect endpoint reply, s)] <+: m.watched.calls →
    (∃ front url endpoints s', before = front ++ [(.discover url (.ok endpoints), s')]
      ∧ endpoints.find? (fun e => e.mode = .plain) = some endpoint)
    ∧ ∀ earlier : ConnectionId, earlier.index < opened before → .close earlier ∈ before.map Prod.fst
  /-- The open session is the one opened last, and no call was made on it. -/
  current : ∀ session, m.manager.current = some session →
    session.index + 1 = opened m.watched.calls ∧ on session m.watched.calls = []
  /-- It is the only one that has not been closed. -/
  live : ∀ session : ConnectionId, session.index < opened m.watched.calls →
    (.close session ∉ m.watched.calls.map Prod.fst ↔ m.manager.current = some session)
  /-- Every other session opened has been closed, once, after one attempt to delete each subscription
  listed on it when that began; no other call was made on it. -/
  closed : ∀ session : ConnectionId, session.index < opened m.watched.calls →
    m.manager.current ≠ some session → Closing t session (on session m.watched.calls)
  /-- No call was made on a session that was not opened. -/
  unopened : ∀ session : ConnectionId, opened m.watched.calls ≤ session.index →
    on session m.watched.calls = []
  /-- Connecting succeeds exactly when there is a connection afterwards. -/
  answer : ∀ url, (m.manager.connect t url m.watched.server).1 = true
    ↔ (m.step t (.connect url)).manager.isConnected = true
  /-- Without a connection, disconnecting makes no call and changes nothing. -/
  idle : m.manager.isConnected = false → m.step t .disconnect = m

/-- **Order**: with the invariant the sessions are in order. -/
theorem Inv.orderly (h : Inv t m) : Orderly t m where
  asked _ _ _ _ hbefore := h.course.asked hbefore
  current _ hcurrent := ⟨h.course.current_eq hcurrent, h.course.on_eq_nil (.inl hcurrent)⟩
  live session hopened := by
    rw [← close_mem_on]
    constructor
    · intro hlive
      by_contra hcurrent
      exact hlive (h.course.closing hopened hcurrent).close_mem
    · intro hcurrent
      rw [h.course.on_eq_nil (.inl hcurrent)]
      exact List.not_mem_nil
  closed _ hopened hcurrent := h.course.closing hopened hcurrent
  unopened _ hunopened := h.course.on_eq_nil (.inr hunopened)
  answer url := by
    obtain ⟨block, outcome, -, -, hanswer, hmanager⟩ := step_connect (t := t) (m := m) url
    rw [(h.connect url).isConnected_eq, Manager.connect_watched, hanswer, hmanager]
    cases outcome with
    | none => simp [h.disconnect.2]
    | some endpoint => simp [Manager.install]
  idle hidle := by
    refine step_disconnect_of_none ?_
    simpa [Manager.isConnected] using hidle

/-- **Sessions**: after any run, whatever the transport answers and whatever else happens to the server,
the sessions of a new manager are in order. -/
theorem orderly_run (t : Transport σ) (s : σ) (events : List (Event σ)) :
    Orderly t (run t { watched := { server := s } } events) :=
  (inv_run (inv_start t s) events).orderly

end Managed

end FieldBridge
