/-
  Polling.

  1. **Events** — polling is started and stopped, time passes, stopping wherever something falls due or at
     once, and the client is changed in any way (`PollEvent`).  Tasks run when time passes, and at no other
     event.

  2. **Specification** — `scheduled`: each start with a period asks for its nodes, once for every multiple
     of the period that is reached before the next start or stop.  A time counts as reached once things
     have run at it or later.

  3. **Ticks** — letting things run fires the timer (`settle_fires`), and however time passes, what is asked
     for is what firing once at the end would ask for (`sleptUntil_fires`).

  4. **Readings** — while the server answers, each reading of a text that is a node id adds one reading to
     the link and one event, and each of another text adds nothing (`Answered`).
-/

import FieldBridge.Proofs.Bridge.Change
import FieldBridge.Proofs.Bridge.Work
import FieldBridge.Proofs.Source.Polling

namespace FieldBridge.Bridge

/-! ## Events -/

/-- What can happen to a bridge that polls. -/
inductive PollEvent where
  | start (nodes : List String) (period : Nat)
  | stop
  /-- Time passes, and things run whenever something falls due. -/
  | sleep (ms : Nat)
  /-- Things run, the clock is set forward at once, and things run again.  A timer has run before time
  moves on, so its ticks count from its start (see `PollTimer.start`). -/
  | jump (ms : Nat)
  /-- Anything happens to the client. -/
  | client (f : Client → Client)

/-- How much time passes. -/
def PollEvent.lapse? : PollEvent → Option Nat
  | .sleep ms => some ms
  | .jump ms => some ms
  | _ => none

/-- A poll of each text. -/
def polls (texts : List String) : List ReadTask := texts.map (⟨·, .poll⟩)

theorem polls_append (texts more : List String) :
    polls (texts ++ more) = polls texts ++ polls more :=
  List.map_append

/-- The tasks that run once things run. -/
def due (b : Bridge) : List ReadTask := b.tick.spawned

/-- Let time pass until `t`, with the tasks that run meanwhile. -/
def sleptUntil (b : Bridge) (t : Nat) : List ReadTask × Bridge :=
  let next := b.settle
  match next.nextStop with
  | none => (b.due, { next with now := max b.now t })
  | some stop =>
    if b.now < stop ∧ stop < t then
      let (later, last) := sleptUntil { next with now := stop } t
      (b.due ++ later, last)
    else (b.due, { next with now := max b.now t })
termination_by t - b.now

/-- One event, with the tasks that run. -/
def poll (b : Bridge) : PollEvent → List ReadTask × Bridge
  | .start nodes period => ([], b.startPolling nodes period)
  | .stop => ([], b.stopPolling)
  | .sleep ms =>
    let later := b.sleep ms
    ((b.sleptUntil (b.now + ms)).1 ++ later.due, later.settle)
  | .jump ms =>
    let later := b.settle.jump ms
    (b.due ++ later.due, later.settle)
  | .client f => ([], { b with client := f b.client })

/-- Events, one after another, with the tasks that run. -/
def pollAll : Bridge → List PollEvent → List ReadTask × Bridge
  | b, [] => ([], b)
  | b, e :: rest =>
    let (tasks, b) := b.poll e
    let (more, b) := pollAll b rest
    (tasks ++ more, b)

/-- Looking at the tasks does not change how time passes. -/
theorem snd_sleptUntil (b : Bridge) (t : Nat) : (b.sleptUntil t).2 = b.sleepUntil t := by
  fun_induction sleptUntil b t with
  | case1 b next hstop =>
    rw [sleepUntil]
    simp only [next, hstop]
  | case2 b next stop hstop hlt later last heq ih =>
    rw [sleepUntil]
    simp only [next, hstop, if_pos hlt]
    rw [← ih]
    simp only [heq]
  | case3 b next stop hstop hlt =>
    rw [sleepUntil]
    simp only [next, hstop, if_neg hlt]

/-! ## Specification -/

/-- The last time that is reached before the next start or stop, if things run before. -/
def reached (now : Nat) : List PollEvent → Option Nat
  | [] => none
  | .start _ _ :: _ => none
  | .stop :: _ => none
  | .sleep ms :: rest => some ((reached (now + ms) rest).getD (now + ms))
  | .jump ms :: rest => some ((reached (now + ms) rest).getD (now + ms))
  | .client _ :: rest => reached now rest

/-- What events that begin at a time ask for. -/
def scheduled (now : Nat) : List PollEvent → List String
  | [] => []
  | .start nodes period :: rest =>
    (match reached now rest with
      | some last => if period = 0 then [] else PollTimer.asked nodes period now last
      | none => []) ++ scheduled now rest
  | .stop :: rest => scheduled now rest
  | .sleep ms :: rest => scheduled (now + ms) rest
  | .jump ms :: rest => scheduled (now + ms) rest
  | .client _ :: rest => scheduled now rest

/-- Polling goes on behind events: the last start had a period, and no stop followed. -/
def goesOn (on : Bool) : List PollEvent → Bool
  | [] => on
  | .start _ period :: rest => goesOn (period ≠ 0) rest
  | .stop :: rest => goesOn false rest
  | _ :: rest => goesOn on rest

variable {now x y : Nat} {e e₁ e₂ : PollEvent} {rest : List PollEvent}

theorem reached_lapse (h : e.lapse? = some x) :
    reached now (e :: rest) = some ((reached (now + x) rest).getD (now + x)) := by
  cases e with
  | sleep ms => obtain rfl := Option.some.inj h; rfl
  | jump ms => obtain rfl := Option.some.inj h; rfl
  | _ => exact absurd h (by simp [PollEvent.lapse?])

theorem scheduled_lapse (h : e.lapse? = some x) :
    scheduled now (e :: rest) = scheduled (now + x) rest := by
  cases e with
  | sleep ms => obtain rfl := Option.some.inj h; rfl
  | jump ms => obtain rfl := Option.some.inj h; rfl
  | _ => exact absurd h (by simp [PollEvent.lapse?])

/-- A text that is a node id. -/
def readable (text : String) : Bool := (NodeId.parse? text).isSome

/-- What a poll of a text asks the link for, if the text is a node id. -/
def request? (text : String) : Option (List ReadItem) :=
  (Reading.plan true text Attribute.polled).toOption.map Reading.request

/-- A server answers readings, at once, and there is one recorder of events. -/
structure Answers (b : Bridge) : Prop where
  connected : b.client.manager.isConnected = true
  faultless : b.client.link.faults = {}
  opened : b.client.link.server.closed = false
  reads : b.client.link.server.failReads = false
  delayed : b.delayed = []
  recorder : b.registry.reached.count .recorder = 1

/-- Polls of texts have been answered: each text that is a node id added its reading and one event, which
names the node in the words of the text. -/
structure Answered (b : Bridge) (texts : List String) (b' : Bridge) : Prop where
  readings : b'.client.link.readings
    = (texts.filterMap request?).reverse ++ b.client.link.readings
  events : ∃ new : List AttributeSet, b'.events = new.reverse ++ b.events
    ∧ new.map (·.get? .nodeId) = (texts.filter readable).map some

variable {b b' b'' : Bridge} {texts more : List String}

theorem Answered.same (hclient : b'.client = b.client) (hevents : b'.events = b.events) :
    b.Answered [] b' where
  readings := by rw [hclient]; rfl
  events := ⟨[], hevents, rfl⟩

theorem Answered.trans (h : b.Answered texts b') (h' : b'.Answered more b'') :
    b.Answered (texts ++ more) b'' where
  readings := by
    rw [h'.readings, h.readings, List.filterMap_append, List.reverse_append, List.append_assoc]
  events := by
    obtain ⟨first, hfirst, hnodes⟩ := h.events
    obtain ⟨second, hsecond, hothers⟩ := h'.events
    refine ⟨first ++ second, ?_, ?_⟩
    · rw [hsecond, hfirst, List.reverse_append, List.append_assoc]
    · rw [List.map_append, hnodes, hothers, List.filter_append, List.map_append]

/-- Only the client, the delayed readings and the listeners matter. -/
theorem Answers.keep (h : b.Answers) (hclient : b'.client = b.client)
    (hdelayed : b'.delayed = b.delayed) (hregistry : b'.registry = b.registry) : b'.Answers where
  connected := by rw [hclient]; exact h.connected
  faultless := by rw [hclient]; exact h.faultless
  opened := by rw [hclient]; exact h.opened
  reads := by rw [hclient]; exact h.reads
  delayed := by rw [hdelayed]; exact h.delayed
  recorder := by rw [hregistry]; exact h.recorder

/-- Listeners that are called leave the client alone, and each recorder among them keeps the event. -/
theorem foldl_call (event : AttributeSet) (listeners : List Listener) (b : Bridge) :
    (listeners.foldl (call event) b).client = b.client
    ∧ (listeners.foldl (call event) b).delayed = b.delayed
    ∧ (listeners.foldl (call event) b).events
      = List.replicate (listeners.count .recorder) event ++ b.events := by
  induction listeners generalizing b with
  | nil => exact ⟨rfl, rfl, rfl⟩
  | cons l rest ih =>
    obtain ⟨hclient, hdelayed, hevents⟩ := ih (b.call event l)
    rw [List.foldl_cons, hclient, hdelayed, hevents]
    cases l with
    | recorder =>
      refine ⟨rfl, rfl, ?_⟩
      rw [List.count_cons_self, List.replicate_succ', List.append_assoc]
      rfl
    | logger =>
      rw [List.count_cons_of_ne (by decide)]
      exact ⟨rfl, rfl, rfl⟩
    | pipeline =>
      rw [List.count_cons_of_ne (by decide)]
      unfold call
      dsimp only
      split
      · exact ⟨rfl, rfl, rfl⟩
      · exact ⟨rfl, rfl, rfl⟩

/-- A text that is no node id is only logged. -/
theorem run_unreadable (hconnected : b.client.manager.isConnected = true) {text : String}
    {e : NodeId.ParseError} (hparse : NodeId.parse text = .error e) : b.run ⟨text, .poll⟩
      = b.log [.pollFailed text (ReadError.invalidNode text e).message] := by
  have hplan : Reading.plan b.client.manager.isConnected text Attribute.polled
      = .error (.invalidNode text e) := by
    simp only [Reading.plan, hconnected, hparse]
    rfl
  simp only [Bridge.run, ReadTask.attributes, hplan]
  rfl

/-- A text that is a node id is read, and the event is delivered. -/
theorem Answers.run_readable (h : b.Answers) {text : String} {node : NodeId}
    (hparse : NodeId.parse text = .ok node) : ∃ link notices event request, b.run ⟨text, .poll⟩
        = ({ b with client := { b.client with link }, notices } : Bridge).deliver event
      ∧ link.faults = {} ∧ link.server.closed = false ∧ link.server.failReads = false
      ∧ request? text = some request ∧ link.readings = request :: b.client.link.readings
      ∧ event.get? .nodeId = some text := by
  let r : Reading := ⟨text, node, Reading.addressed Attribute.polled, false⟩
  have hplan (connected : Bool) (hconnected : connected = true) :
      Reading.plan connected text Attribute.polled = .ok r := by
    simp only [Reading.plan, hconnected, hparse]
    rfl
  let server : Server := { b.client.link.server with
    readCalls := b.client.link.server.readCalls + 1 }
  let values := r.request.map server.valueOf
  let link : Link := { b.client.link with
    readings := r.request :: b.client.link.readings
    server }
  let event := r.event b.time values
  have hread : b.client.link.server.read r.request = (.ok values, server) := by
    simp [Server.read, h.opened, h.reads, values, server]
  have hask : b.ask r = ({}, { b with client := { b.client with link := { b.client.link with
      readings := r.request :: b.client.link.readings } } }) := by
    simp [ask, Link.beginRead, h.faultless]
  have hanswer : ({ b with client := { b.client with link := { b.client.link with
      readings := r.request :: b.client.link.readings } } } : Bridge).answer {} r
      = (.ok event, { b with
        client := { b.client with link }
        notices := (r.check values).reverse ++ b.notices }) := by
    simp only [answer, Link.endRead, hread]
    rfl
  have hevent : (⟨text, .poll⟩ : ReadTask).event (.ok event) = ([], some event) := by
    have hfull : event.isEmpty = false := AttributeSet.isEmpty_insert _ _ _
    simp [ReadTask.event, ReadTask.pollEvent, hfull]
  refine ⟨link, (r.check values).reverse ++ b.notices, event, r.request, ?_, h.faultless, h.opened,
    h.reads, ?_, rfl, rfl⟩
  · simp only [Bridge.run, ReadTask.attributes, hplan _ h.connected, hask, if_true, resume, hanswer]
    exact finish_some hevent
  · rw [request?, hplan true rfl]
    rfl

/-- **A poll** of a text is answered while the server answers. -/
theorem Answers.run (h : b.Answers) (text : String) :
    (b.run ⟨text, .poll⟩).Answers ∧ b.Answered [text] (b.run ⟨text, .poll⟩) := by
  cases hparse : NodeId.parse text with
  | error e =>
    rw [run_unreadable h.connected hparse]
    refine ⟨h.keep rfl rfl rfl, ?_, [], rfl, ?_⟩
    · have hplan : request? text = none := by
        simp [request?, Reading.plan, hparse, Except.toOption]
      rw [List.filterMap_cons_none hplan]
      rfl
    · have hbad : readable text = false := by
        simp [readable, NodeId.parse?, hparse, Except.toOption]
      rw [List.filter_cons_of_neg (by rw [hbad]; decide)]
      rfl
  | ok node =>
    obtain ⟨link, notices, event, request, hrun, hfaults, hopened, hreads, hrequest, hreadings,
      hnode⟩ := h.run_readable hparse
    let b₁ : Bridge := { b with client := { b.client with link }, notices }
    obtain ⟨hclient, hdelayed, hevents⟩ := foldl_call event b₁.registry.reached b₁
    have hfirst : b₁.Answers := ⟨h.connected, hfaults, hopened, hreads, h.delayed, h.recorder⟩
    have hgood : readable text = true := by
      simp [readable, NodeId.parse?, hparse, Except.toOption]
    rw [hrun]
    -- the one recorder keeps the event, and the listeners leave the link alone
    refine ⟨hfirst.keep hclient hdelayed (worked_deliver b₁ event).registry, ?_, [event], ?_, ?_⟩
    · show ((b₁.registry.reached.foldl (call event) b₁).client.link.readings) = _
      rw [hclient, List.filterMap_cons_some hrequest]
      exact hreadings
    · show (b₁.registry.reached.foldl (call event) b₁).events = _
      rw [hevents, hfirst.recorder]
      rfl
    · rw [List.filter_cons_of_pos hgood, List.map_cons, hnode]
      rfl

/-- Polls of several texts. -/
theorem Answers.runAll (h : b.Answers) (texts : List String) :
    ((polls texts).foldl Bridge.run b).Answers
    ∧ b.Answered texts ((polls texts).foldl Bridge.run b) := by
  induction texts generalizing b with
  | nil => exact ⟨h, Answered.same rfl rfl⟩
  | cons text rest ih =>
    obtain ⟨hnext, hanswered⟩ := h.run text
    obtain ⟨hlast, hothers⟩ := ih hnext
    exact ⟨hlast, hanswered.trans hothers⟩

/-- **Letting things run** answers what is spawned, if that is polls. -/
theorem Answers.settle (h : b.Answers) (hdue : b.due = polls texts) :
    b.settle.Answers ∧ b.Answered texts b.settle := by
  obtain ⟨timer, spawned, htick, -⟩ := b.tick_eq
  have hspawned : spawned = polls texts := by
    rw [← hdue, due, htick]
  let b₁ : Bridge := { b with timer, spawned := [] }
  have hwake : b.tick.wake = b.tick := by
    rw [htick]
    exact wake_of_nil h.delayed
  have hrun : b.tick.wake.runSpawned = (polls texts).foldl Bridge.run b₁ := by
    rw [hwake, htick, runSpawned, hspawned]
  have hfirst : b₁.Answers := h.keep rfl rfl rfl
  obtain ⟨hlast, hanswered⟩ := hfirst.runAll texts
  rw [Bridge.settle, hrun]
  refine ⟨hlast.keep rfl rfl rfl, ?_⟩
  exact ⟨hanswered.readings, hanswered.events⟩

/-! ## Ticks -/

/-- What a timer that may run asks for, and the timer after that. -/
def firing (timer : Option PollTimer) (now : Nat) : List String × Option PollTimer :=
  match timer with
  | none => ([], none)
  | some t => ((t.fire now).1, some (t.fire now).2)

/-- Between two events no task waits to be run, and a timer that runs has a period. -/
structure Ticking (b : Bridge) : Prop where
  spawned : b.spawned = []
  period : ∀ t, b.timer = some t → 0 < t.period

/-- Things have run up to a time: the timer has fired, and its polls were answered if the server
answers. -/
structure Fired (b : Bridge) (tasks : List ReadTask) (t : Nat) (b' : Bridge) : Prop where
  tasks : tasks = polls (firing b.timer t).1
  timer : b'.timer = (firing b.timer t).2
  ticking : b'.Ticking
  answered : b.Answers → b'.Answers ∧ b.Answered (firing b.timer t).1 b'

variable {tasks others : List ReadTask} {later : Nat}

/-- Firing twice is firing once. -/
theorem Ticking.firing_firing (h : b.Ticking) (hle : now ≤ later) :
    (firing b.timer now).1 ++ (firing (firing b.timer now).2 later).1 = (firing b.timer later).1
    ∧ (firing (firing b.timer now).2 later).2 = (firing b.timer later).2 := by
  cases htimer : b.timer with
  | none => exact ⟨rfl, rfl⟩
  | some t =>
    obtain ⟨hasked, hlast⟩ := PollTimer.fire_fire (h.period t htimer) hle
    exact ⟨hasked, congrArg some hlast⟩

theorem Fired.trans (h : b.Fired tasks now b') (hticking : b.Ticking) (hle : now ≤ later)
    (h' : b'.Fired others later b'') : b.Fired (tasks ++ others) later b'' := by
  obtain ⟨hasked, hlast⟩ := hticking.firing_firing hle
  have htimer := h.timer
  refine ⟨?_, ?_, h'.ticking, fun hanswers => ?_⟩
  · rw [h.tasks, h'.tasks, htimer, ← hasked, polls_append]
  · rw [h'.timer, htimer, hlast]
  · obtain ⟨hnext, hfirst⟩ := h.answered hanswers
    obtain ⟨hend, hsecond⟩ := h'.answered hnext
    rw [htimer] at hsecond
    rw [← hasked]
    exact ⟨hend, hfirst.trans hsecond⟩

/-- The clock does not matter to what has run. -/
theorem Fired.clock (h : b.Fired tasks now b') (t : Nat) : b.Fired tasks now { b' with now := t } where
  tasks := h.tasks
  timer := h.timer
  ticking := ⟨h.ticking.spawned, h.ticking.period⟩
  answered := fun hanswers => by
    obtain ⟨hend, hanswered⟩ := h.answered hanswers
    exact ⟨hend.keep rfl rfl rfl, hanswered.readings, hanswered.events⟩

/-- **Letting things run** fires the timer once. -/
theorem Ticking.settle (h : b.Ticking) : b.Fired b.due b.now b.settle := by
  have htick : b.tick = { b with
      timer := (firing b.timer b.now).2
      spawned := polls (firing b.timer b.now).1 } := by
    cases htimer : b.timer with
    | none =>
      rw [tick_of_none htimer]
      show b = { b with timer := none, spawned := [] }
      rw [← htimer, ← h.spawned]
    | some t =>
      simp only [tick, htimer, h.spawned]
      rfl
  have hdue : b.due = polls (firing b.timer b.now).1 := by rw [due, htick]
  have hworked := worked_settle b
  have htimer : b.settle.timer = (firing b.timer b.now).2 := by
    calc b.settle.timer = b.tick.timer := hworked.timer
      _ = (firing b.timer b.now).2 := by rw [htick]
  refine ⟨hdue, htimer, ⟨hworked.spawned, fun t ht => ?_⟩,
    fun hanswers => hanswers.settle hdue⟩
  rw [htimer] at ht
  cases hold : b.timer with
  | none =>
    rw [hold] at ht
    exact absurd ht (by simp [firing])
  | some old =>
    rw [hold] at ht
    obtain rfl := Option.some.inj ht
    exact h.period old hold

/-- Things run, and run again at a later time. -/
theorem Ticking.settle_settle (h : b.Ticking) (hle : b.now ≤ later) :
    b.Fired (b.due ++ ({ b.settle with now := later } : Bridge).due) later
      ({ b.settle with now := later } : Bridge).settle := by
  have hfirst := h.settle.clock later
  exact hfirst.trans h hle hfirst.ticking.settle

/-- **Letting time pass** comes to firing the timer once at the end. -/
theorem Ticking.sleptUntil (h : b.Ticking) {t : Nat} (hle : b.now ≤ t) :
    b.Fired ((b.sleptUntil t).1 ++ (b.sleptUntil t).2.due) t (b.sleptUntil t).2.settle
    ∧ (b.sleptUntil t).2.now = t := by
  have hmax : max b.now t = t := Nat.max_eq_right hle
  -- every round fires the timer at its own time, and firing again later makes up for the rest
  fun_induction Bridge.sleptUntil b t with
  | case1 b next hstop =>
    rw [hmax]
    exact ⟨h.settle_settle hle, rfl⟩
  | case2 b next stop hstop hlt rest last heq ih =>
    have hfirst := h.settle.clock stop
    have hbefore : stop ≤ t := Nat.le_of_lt hlt.2
    obtain ⟨hrest, hnow⟩ := ih hfirst.ticking hbefore (Nat.max_eq_right hbefore)
    rw [heq] at hrest hnow
    rw [List.append_assoc]
    exact ⟨hfirst.trans h hle hrest, hnow⟩
  | case3 b next stop hstop hlt =>
    rw [hmax]
    exact ⟨h.settle_settle hle, rfl⟩

/-- **Step**: time passes. -/
theorem Ticking.poll (h : b.Ticking) (he : e.lapse? = some x) :
    b.Fired (b.poll e).1 (b.now + x) (b.poll e).2 ∧ (b.poll e).2.now = b.now + x := by
  have hle : b.now ≤ b.now + x := Nat.le_add_right _ _
  cases e with
  | sleep ms =>
    obtain rfl := Option.some.inj he
    obtain ⟨hfired, hnow⟩ := h.sleptUntil hle
    rw [snd_sleptUntil] at hfired hnow
    exact ⟨hfired, (settle_keeps _).2.1.trans hnow⟩
  | jump ms =>
    obtain rfl := Option.some.inj he
    have hnow : b.settle.now + ms = b.now + ms := by rw [(settle_keeps b).2.1]
    show b.Fired (b.due ++ ({ b.settle with now := b.settle.now + ms } : Bridge).due) _
      ({ b.settle with now := b.settle.now + ms } : Bridge).settle ∧ _
    rw [hnow]
    refine ⟨h.settle_settle hle, (settle_keeps _).2.1.trans ?_⟩
    exact hnow
  | _ => exact absurd he (by simp [PollEvent.lapse?])

/-! ## Runs -/

/-- What a timer asks for until a time, if there is one. -/
def pending (timer : Option PollTimer) : Option Nat → List String
  | some last => (firing timer last).1
  | none => []

theorem pending_none (last : Option Nat) : pending none last = [] := by
  cases last with
  | none => rfl
  | some last => rfl

theorem le_reached {events : List PollEvent} {last : Nat} (h : reached now events = some last) :
    now ≤ last := by
  induction events generalizing now last with
  | nil => exact absurd h (by simp [reached])
  | cons e rest ih =>
    have hpass (ms : Nat) (heq : some ((reached (now + ms) rest).getD (now + ms)) = some last) :
        now ≤ last := by
      obtain rfl := Option.some.inj heq
      cases hrest : reached (now + ms) rest with
      | none => exact Nat.le_add_right _ _
      | some later => exact Nat.le_trans (Nat.le_add_right _ _) (ih hrest)
    cases e with
    | start nodes period => exact absurd h (by simp [reached])
    | stop => exact absurd h (by simp [reached])
    | sleep ms => exact hpass ms h
    | jump ms => exact hpass ms h
    | client f => exact ih h

/-- What a timer asks for can be cut at a time that is reached. -/
theorem Ticking.pending_cut (h : b.Ticking) (now : Nat) (rest : List PollEvent) :
    pending b.timer (some ((reached now rest).getD now))
      = (firing b.timer now).1 ++ pending (firing b.timer now).2 (reached now rest) := by
  cases hrest : reached now rest with
  | none => exact (List.append_nil _).symm
  | some last => exact (h.firing_firing (le_reached hrest)).1.symm

/-- What a timer that has just been started asks for. -/
theorem pending_start (nodes : List String) (period now : Nat) (last : Option Nat) :
    pending (PollTimer.start nodes period now) last = match last with
      | some last => if period = 0 then [] else PollTimer.asked nodes period now last
      | none => [] := by
  cases last with
  | none => rfl
  | some last =>
    unfold PollTimer.start
    split
    · rfl
    · rename_i hperiod
      exact PollTimer.fire_start nodes (Nat.pos_of_ne_zero hperiod) last

/-- A timer that is started has a period. -/
theorem Ticking.startPolling (h : b.Ticking) (nodes : List String) (period : Nat) :
    (b.startPolling nodes period).Ticking ∧ (b.startPolling nodes period).isPolling
      = decide (period ≠ 0) := by
  have htimer : (b.startPolling nodes period).timer = PollTimer.start nodes period b.now := rfl
  by_cases hzero : period = 0
  · have hnone : (b.startPolling nodes period).timer = none := by
      rw [htimer, PollTimer.start, if_pos hzero]
    refine ⟨⟨h.spawned, fun t ht => ?_⟩, ?_⟩
    · rw [hnone] at ht
      exact absurd ht (by simp)
    · rw [isPolling, hnone]
      simp [hzero]
  · have hsome : (b.startPolling nodes period).timer = some ⟨nodes, period, b.now⟩ := by
      rw [htimer, PollTimer.start, if_neg hzero]
    refine ⟨⟨h.spawned, fun t ht => ?_⟩, ?_⟩
    · rw [hsome] at ht
      obtain rfl := Option.some.inj ht
      exact Nat.pos_of_ne_zero hzero
    · rw [isPolling, hsome]
      simp [hzero]

/-- While time passes a timer that runs goes on running. -/
theorem Ticking.isPolling_poll (h : b.Ticking) (he : e.lapse? = some x) :
    (b.poll e).2.isPolling = b.isPolling := by
  rw [isPolling, (h.poll he).1.timer, isPolling]
  cases b.timer with
  | none => rfl
  | some t => rfl

/-- What events ask of a bridge: what its timer owes until it is started anew or stopped, and what the
events schedule; and whether it polls behind them. -/
structure Asks (b : Bridge) (events : List PollEvent) : Prop where
  tasks : (b.pollAll events).1
    = polls (pending b.timer (reached b.now events) ++ scheduled b.now events)
  polling : (b.pollAll events).2.isPolling = goesOn b.isPolling events
  ticking : (b.pollAll events).2.Ticking

/-- Time passes first. -/
theorem Ticking.asks_lapse (h : b.Ticking) (he : e.lapse? = some x)
    (hrest : (b.poll e).2.Asks rest) : b.Asks (e :: rest) where
  tasks := by
    have hfired := (h.poll he).1
    have htasks := hrest.tasks
    rw [(h.poll he).2, hfired.timer] at htasks
    show (b.poll e).1 ++ ((b.poll e).2.pollAll rest).1 = _
    rw [htasks, hfired.tasks, reached_lapse he, scheduled_lapse he, h.pending_cut]
    simp only [polls_append, List.append_assoc]
  polling := by
    have hgoesOn : goesOn b.isPolling (e :: rest) = goesOn b.isPolling rest := by
      cases e with
      | sleep ms => rfl
      | jump ms => rfl
      | _ => exact absurd he (by simp [PollEvent.lapse?])
    rw [hgoesOn, ← h.isPolling_poll he]
    exact hrest.polling
  ticking := hrest.ticking

/-- **Run**: the tasks that run are those that the timer asks for until it is started anew or stopped, and
those that the events ask for. -/
theorem Ticking.asks (h : b.Ticking) (events : List PollEvent) : b.Asks events := by
  -- what the timer still owes is carried from one event to the next
  induction events generalizing b with
  | nil => exact ⟨rfl, rfl, h⟩
  | cons e rest ih =>
    cases e with
    | start nodes period =>
      obtain ⟨hticking, hpolling⟩ := h.startPolling nodes period
      have hrest := ih hticking
      have hon := hrest.polling
      rw [hpolling] at hon
      refine ⟨hrest.tasks.trans ?_, hon, hrest.ticking⟩
      show polls (pending (PollTimer.start nodes period b.now) (reached b.now rest)
        ++ scheduled b.now rest) = _
      rw [pending_start]
      rfl
    | stop =>
      -- a timer that is stopped owes nothing
      have hticking : b.stopPolling.Ticking := ⟨h.spawned, fun t ht => absurd ht (by simp [stopPolling])⟩
      have hrest := ih hticking
      refine ⟨hrest.tasks.trans ?_, hrest.polling, hrest.ticking⟩
      show polls (pending none (reached b.now rest) ++ scheduled b.now rest)
        = polls ([] ++ scheduled b.now rest)
      rw [pending_none]
    | sleep ms => exact h.asks_lapse rfl (ih (h.poll rfl).1.ticking)
    | jump ms => exact h.asks_lapse rfl (ih (h.poll rfl).1.ticking)
    | client f =>
      have hrest := ih (b := { b with client := f b.client }) ⟨h.spawned, h.period⟩
      exact ⟨hrest.tasks, hrest.polling, hrest.ticking⟩

end FieldBridge.Bridge
