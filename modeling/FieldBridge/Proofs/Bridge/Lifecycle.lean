/-
  Starting and shutting down, over and over.

  1. **Actions** — whatever can be done to a bridge over a server with any faults and a broker behind a gate:
     starts and shutdowns, awaited or cut where they wait, so that anything can happen meanwhile; calls of
     the client; polling; changes told and events delivered; permits and faults of the broker; time.

  2. **Invariant** (`Kept`) — the listeners are in order, and the counter of the outbox says how many jobs
     are under way.

  3. **Outcomes** — what a start (`start_cases`) and a shutdown (`shutdown_cases`) come to.

  4. **Results** — every message is accounted for (`accounted_run`), the lifecycle can be repeated
     (`repeatable_run`), nothing is published after a shutdown that succeeded (`silent_run`), and a shutdown
     that failed has lost nothing (`retained_run`).
-/

import FieldBridge.Proofs.Bridge.Listeners
import FieldBridge.Proofs.Bridge.Work

namespace FieldBridge.Bridge

/-! ## Actions -/

/-- What can be done to a bridge. -/
inductive Action where
  | start
  | shutdown
  /-- A start, up to its monitor call. -/
  | beginStart
  /-- A start, from the end of its monitor call on. -/
  | finishStart
  /-- A shutdown, up to its flush. -/
  | beginShutdown
  /-- A shutdown that waits looks whether it can end. -/
  | endShutdown
  | connect (url : String)
  | disconnect
  | monitor (calls : List (List String))
  /-- Monitor calls in progress get on. -/
  | advance (calls : List MonitorCall)
  | unmonitor (texts : List String)
  | startPolling (nodes : List String) (period : Nat)
  | stopPolling
  /-- The server tells about changes. -/
  | change (changes : List Change)
  /-- Somebody delivers an event to the listeners. -/
  | deliver (event : AttributeSet)
  /-- Somebody else begins to listen. -/
  | listen
  /-- Somebody else ceases to listen. -/
  | unlisten (id : ListenerId)
  /-- Anything happens to the server and the link. -/
  | link (f : Link → Link)
  /-- The gate hands out permits. -/
  | permit (n : Nat)
  /-- Sends, or creating the topic, or flushing, begin to fail or cease to. -/
  | failSends (fail : Bool)
  | failEnsure (fail : Bool)
  | failFlush (fail : Bool)
  /-- Flushes begin to stall or cease to. -/
  | stallFlush (stall : Bool)
  | sleep (ms : Nat)
  | jump (ms : Nat)
  | settle

/-- The action starts the bridge. -/
def Action.starts : Action → Bool
  | .start => true
  | .beginStart => true
  | _ => false

/-- Change the gate. -/
def setGate (b : Bridge) (f : GatedBroker → GatedBroker) : Bridge :=
  { b with outbox := { b.outbox with gate := f b.outbox.gate } }

/-- One action. -/
def act (b : Bridge) : Action → Bridge
  | .start => b.start.2
  | .shutdown => b.shutdown.2
  | .beginStart => b.beginStart.2
  | .finishStart => b.finishStart
  | .beginShutdown => b.beginShutdown
  | .endShutdown => match b.tryFlush with
    | some answer => (b.finishShutdown answer).2
    | none => b
  | .connect url => (b.connect url).2
  | .disconnect => b.disconnect
  | .monitor calls => b.monitorAll calls
  | .advance calls => (b.advance calls).2
  | .unmonitor texts => b.unmonitor texts
  | .startPolling nodes period => b.startPolling nodes period
  | .stopPolling => b.stopPolling
  | .change changes => b.spawn changes
  | .deliver event => b.deliver event
  | .listen => (b.listen .recorder).2
  | .unlisten id => if id ∈ b.registered then b else b.unlisten id
  | .link f => { b with client := { b.client with link := f b.client.link } }
  | .permit n => { b with outbox := b.outbox.permit n }
  | .failSends fail => b.setGate fun g => { g with broker := g.broker.setFailing fail }
  | .failEnsure fail => b.setGate fun g => { g with failEnsure := fail }
  | .failFlush fail => b.setGate fun g => { g with failFlush := fail }
  | .stallFlush stall => b.setGate fun g => { g with stallFlush := stall }
  | .sleep ms => b.sleep ms
  | .jump ms => b.jump ms
  | .settle => b.settle

/-- Actions, one after another. -/
def actAll (b : Bridge) (actions : List Action) : Bridge := actions.foldl act b

/-- A bridge that has not been started, over any link, with a broker behind a gate that holds nothing
back yet. -/
def installed (config : Config) (gate : GatedBroker) (link : Link) : Bridge :=
  { create config { gate with waiting := [] } with client := { link } }

/-! ## Starting -/

variable {b b' : Bridge}

theorem register_frame (b : Bridge) :
    ∃ registry registered, b.register = { b with registry, registered } := by
  unfold register
  split
  · exact ⟨_, _, rfl⟩
  · exact ⟨b.registry, b.registered, rfl⟩

/-- Listeners hear nothing of being registered. -/
theorem hands_register (b : Bridge) : b.Hands [] [] b.register := by
  obtain ⟨registry, registered, heq⟩ := b.register_frame
  rw [heq]
  exact hands_still (Outbox.Moves.refl _) rfl rfl rfl

theorem passed_finishStart (b : Bridge) : b.Passed b.finishStart := by
  unfold finishStart
  split
  · exact passed_startPolling b _ _
  · exact Passed.refl b

/-- Asking for the topic fails and changes nothing, or moves nothing. -/
theorem ensure_cases (o : Outbox) : (∃ e, o.ensure = (.error e, o))
    ∨ ∃ outbox, o.ensure = (.ok (), outbox) ∧ o.Moves [] [] outbox
      ∧ outbox.notices = o.notices := by
  unfold Outbox.ensure GatedBroker.ensure
  split
  · rename_i gate hensure
    split at hensure
    · exact absurd hensure (by simp)
    · obtain ⟨-, rfl⟩ := Prod.mk.inj hensure
      refine Or.inr ⟨_, rfl, ⟨?_, id, [.ensure o.sink.topic], rfl, rfl⟩, rfl⟩
      exact (Outbox.Moves.refl o).jobs
  · rename_i e gate hensure
    split at hensure
    · obtain ⟨-, rfl⟩ := Prod.mk.inj hensure
      exact Or.inl ⟨_, rfl⟩
    · exact absurd hensure (by simp)

/-- A start fails at the topic, before anything has happened, or registers the listeners. -/
theorem beginStart_cases (b : Bridge) : (∃ e, b.beginStart = (.error e, b))
    ∨ ∃ b', b.Passed b' ∧ b.beginStart = (.ok (), b'.register) := by
  unfold beginStart
  rcases ensure_cases b.outbox with ⟨e, hensure⟩ | ⟨outbox, hensure, hmoves, hnotices⟩
  · rw [hensure]
    exact Or.inl ⟨_, rfl⟩
  · rw [hensure]
    refine Or.inr ⟨_, ?_, rfl⟩
    have houtbox := passed_outbox b hmoves hnotices
    refine houtbox.trans ((passed_connect _ _).trans (worked_log _ ?_).passed)
    split
    · exact Notice.silent_nil
    · simp [Notice.traceId?]

/-- **Starting** fails at the topic, before anything has happened, or registers the listeners, monitors and
begins to poll. -/
theorem start_cases (b : Bridge) : (∃ e, b.start = (.error e, b))
    ∨ ∃ b₁ b₂, b.Passed b₁ ∧ b₁.register.Passed b₂ ∧ b.start = (.ok (), b₂.finishStart) := by
  unfold start
  rcases beginStart_cases b with ⟨e, hbegin⟩ | ⟨b₁, hpassed, hbegin⟩
  · rw [hbegin]
    exact Or.inl ⟨e, rfl⟩
  · rw [hbegin]
    exact Or.inr ⟨b₁, _, hpassed, passed_await _ _ _, rfl⟩

/-! ## Shutting down -/

/-- A flush that is answered finds nothing in flight. -/
theorem inFlight_of_tryFlush {answer : Except Error Unit} (h : b.tryFlush = some answer) :
    b.outbox.inFlight = 0 := by
  unfold tryFlush Outbox.tryFlush at h
  split at h
  · rename_i hidle
    exact of_decide_eq_true hidle
  · exact absurd h (by simp)

/-- Where nothing is in flight and the broker confirms a flush is answered at once. -/
theorem tryFlush_of_inFlight (hidle : b.outbox.inFlight = 0)
    (hflush : b.outbox.gate.flush = some (.ok ())) : b.tryFlush = some (.ok ()) := by
  have hmay : b.outbox.sink.mayFlush = true := decide_eq_true hidle
  simp [tryFlush, Outbox.tryFlush, hmay, hflush, Sink.flushed]

/-- What **a flush with a deadline** comes to: it has been answered in time, or the deadline has come and it
would have to wait still. -/
theorem flushUntil_cases (b : Bridge) (deadline : Nat) (h : b.now ≤ deadline) :
    (b.flushUntil deadline).2.now ≤ deadline
      ∧ (b.flushUntil deadline).2.tryFlush = some (b.flushUntil deadline).1
    ∨ (b.flushUntil deadline).2.now = deadline ∧ (b.flushUntil deadline).2.tryFlush = none
      ∧ (b.flushUntil deadline).1
        = .error (.flushTimeout (b.flushUntil deadline).2.config.flushTimeout.toNat) := by
  fun_induction flushUntil b deadline with
  | case1 b answer hanswer => exact Or.inl ⟨h, hanswer⟩
  | case2 b hnone hlt next answer hanswer =>
    have hnow : next.now = b.now := (settle_keeps b).2.1
    exact Or.inl ⟨hnow ▸ h, hanswer⟩
  | case3 b hnone hlt next hnone' hstop ih => exact ih (Nat.le_refl deadline)
  | case4 b hnone hlt next hnone' stop hstop hbefore ih => exact ih (Nat.le_of_lt hbefore.2)
  | case5 b hnone hlt next hnone' stop hstop hbefore ih => exact ih (Nat.le_refl deadline)
  | case6 b hnone hlt => exact Or.inr ⟨Nat.le_antisymm h (Nat.not_lt.1 hlt), hnone, rfl⟩

theorem hands_deregister (b : Bridge) : b.Hands [] [] b.deregister :=
  hands_still (Outbox.Moves.refl _) rfl rfl rfl

theorem passed_beginShutdown (b : Bridge) : b.Passed b.beginShutdown :=
  (passed_set b b.client b.now none b.spawned).trans (passed_disconnect _)

/-- **Shutting down** stops the timer, disconnects and waits, and then fails, or has nothing in flight and
deregisters. -/
theorem shutdown_cases (b : Bridge) : ∃ b', b.Passed b' ∧ b'.isPolling = false
    ∧ b'.client.manager.isConnected = false
    ∧ ((∃ e, b.shutdown = (.error e, b'))
      ∨ b'.tryFlush = some (.ok ()) ∧ b.shutdown = (.ok (), b'.deregister)) := by
  let deadline := b.beginShutdown.now + b.beginShutdown.config.flushTimeout.toNat * 1000
  let b' := (b.beginShutdown.flushUntil deadline).2
  -- the timer and the connection are gone before the flush, and waiting brings neither back
  obtain ⟨hmanager, hpolling⟩ := steady_source.flushUntil b.beginShutdown deadline
  refine ⟨b', (passed_beginShutdown b).trans (steady_passed.flushUntil _ _), hpolling, ?_, ?_⟩
  · rw [hmanager]
    exact Manager.isConnected_closeCurrent Link.transport b.client.manager b.client.link
  · have hshutdown : b.shutdown = b'.finishShutdown (b.beginShutdown.flushUntil deadline).1 := rfl
    rw [hshutdown]
    rcases flushUntil_cases b.beginShutdown deadline (Nat.le_add_right _ _) with
      ⟨-, hanswer⟩ | ⟨-, -, htimeout⟩
    · cases hflushed : (b.beginShutdown.flushUntil deadline).1 with
      | error e => exact Or.inl ⟨e, rfl⟩
      | ok u => exact Or.inr ⟨hanswer.trans (congrArg some hflushed), rfl⟩
    · rw [htimeout]
      exact Or.inl ⟨_, rfl⟩

/-- Where nothing is in flight and the broker confirms, **shutting down** succeeds and deregisters. -/
theorem shutdown_of_inFlight (h : b.Listens) (hidle : b.outbox.inFlight = 0)
    (hflush : b.outbox.gate.flush = some (.ok ())) : b.shutdown.1 = .ok ()
      ∧ b.shutdown.2.registry.reached = b.registry.reached.filter (· = .recorder) := by
  have hanswer : b.beginShutdown.tryFlush = some (.ok ()) := tryFlush_of_inFlight hidle hflush
  have hflushed (deadline : Nat) :
      b.beginShutdown.flushUntil deadline = (.ok (), b.beginShutdown) := by
    rw [flushUntil]
    simp only [hanswer]
  have hshutdown : b.shutdown = (.ok (), b.beginShutdown.deregister) := by
    unfold shutdown
    dsimp only
    rw [hflushed]
    rfl
  have hlistens : b.beginShutdown.Listens := h.keep rfl rfl
  rw [hshutdown]
  exact ⟨rfl, hlistens.deregister.2⟩

/-- A job that the gate holds back is handed over when it gets its **permit**. -/
theorem hands_permit (b : Bridge) (n : Nat) : ∃ sent handed,
    b.Hands sent handed (b.act (.permit n)).settle
    ∧ (b.outbox.gate.waiting.take n).Sublist handed := by
  obtain ⟨sent, handed, hhands, hadmitted⟩ := hands_settle (b.act (.permit n))
  have hpermit : b.Hands [] [] (b.act (.permit n)) :=
    hands_still (b.outbox.permit_moves n) rfl rfl rfl
  exact ⟨sent, handed, hpermit.trans hhands, (b.outbox.admitted_permit n).trans hadmitted⟩

/-! ## Invariant -/

/-- **The invariant** between two actions. -/
structure Kept (config : Config) (b : Bridge) : Prop where
  configured : b.config = config
  listens : b.Listens
  counted : b.outbox.Counted

variable {config : Config} {starts : Bool}

theorem kept_installed (config : Config) (gate : GatedBroker) (link : Link) :
    (installed config gate link).Kept config where
  configured := rfl
  listens := ⟨⟨[], [], Registry.holds_empty, rfl⟩, Or.inl rfl⟩
  counted := rfl

/-- The invariant is kept, and where the bridge keeps no handles only a start lets it register or send. -/
structure Evolves (config : Config) (starts : Bool) (b b' : Bridge) : Prop where
  kept : b.Kept config → b'.Kept config
  hands : ∃ sent handed, b.Hands sent handed b'
    ∧ (starts = false → b.Kept config → b.registered = [] → b'.registered = [] ∧ sent = [])

theorem Evolves.trans {b'' : Bridge} {more : Bool} (h : b.Evolves config starts b')
    (h' : b'.Evolves config more b'') : b.Evolves config (starts || more) b'' where
  kept := fun hkept => h'.kept (h.kept hkept)
  hands := by
    obtain ⟨sent, handed, hhands, hnone⟩ := h.hands
    obtain ⟨sent', handed', hhands', hnone'⟩ := h'.hands
    refine ⟨sent ++ sent', handed ++ handed', hhands.trans hhands', fun hquiet hkept hempty => ?_⟩
    obtain ⟨hstarts, hmore⟩ := Bool.or_eq_false_iff.1 hquiet
    obtain ⟨hempty', hsent⟩ := hnone hstarts hkept hempty
    obtain ⟨hempty'', hsent'⟩ := hnone' hmore (h.kept hkept) hempty'
    exact ⟨hempty'', by rw [hsent, hsent', List.append_nil]⟩

theorem Passed.evolves (h : b.Passed b') (starts : Bool) : b.Evolves config starts b' := by
  obtain ⟨sent, handed, hhands, hnone⟩ := h.hands
  constructor
  · intro hkept
    exact ⟨h.config.trans hkept.configured, hkept.listens.keep h.registry h.registered,
      hhands.moves.counted hkept.counted⟩
  · refine ⟨sent, handed, hhands, fun _ hkept hempty => ⟨h.registered.trans hempty, hnone ?_⟩⟩
    rw [hkept.listens.pipeline_mem]
    exact fun hfull => hfull hempty

theorem evolves_register (b : Bridge) : b.Evolves config true b.register := by
  have hhands := b.hands_register
  constructor
  · intro hkept
    refine ⟨?_, hkept.listens.register.1, hhands.moves.counted hkept.counted⟩
    obtain ⟨registry, registered, heq⟩ := b.register_frame
    rw [heq]
    exact hkept.configured
  · exact ⟨[], [], hhands, fun hquiet => absurd hquiet (by decide)⟩

theorem evolves_deregister (b : Bridge) (starts : Bool) : b.Evolves config starts b.deregister := by
  have hhands := b.hands_deregister
  constructor
  · intro hkept
    exact ⟨hkept.configured, hkept.listens.deregister.1, hhands.moves.counted hkept.counted⟩
  · exact ⟨[], [], hhands, fun _ _ _ => ⟨rfl, rfl⟩⟩

theorem evolves_listen (b : Bridge) : b.Evolves config starts (b.listen .recorder).2 := by
  have hhands : b.Hands [] [] (b.listen .recorder).2 :=
    hands_still (Outbox.Moves.refl _) rfl rfl rfl
  constructor
  · intro hkept
    exact ⟨hkept.configured, hkept.listens.listen, hhands.moves.counted hkept.counted⟩
  · exact ⟨[], [], hhands, fun _ _ hempty => ⟨hempty, rfl⟩⟩

theorem evolves_unlisten (b : Bridge) {id : ListenerId} (hother : id ∉ b.registered) (starts : Bool) :
    b.Evolves config starts (b.unlisten id) := by
  have hhands : b.Hands [] [] (b.unlisten id) :=
    hands_still (Outbox.Moves.refl _) rfl rfl rfl
  constructor
  · intro hkept
    exact ⟨hkept.configured, hkept.listens.unlisten hother, hhands.moves.counted hkept.counted⟩
  · exact ⟨[], [], hhands, fun _ _ hempty => ⟨hempty, rfl⟩⟩

theorem evolves_start (b : Bridge) : b.Evolves config true b.start.2 := by
  rcases start_cases b with ⟨e, hstart⟩ | ⟨b₁, b₂, hbefore, hafter, hstart⟩
  · rw [hstart]
    exact (Passed.refl b).evolves _
  · rw [hstart]
    exact (hbefore.evolves true).trans ((evolves_register b₁).trans
      ((hafter.trans (passed_finishStart b₂)).evolves true))

theorem evolves_shutdown (b : Bridge) : b.Evolves config false b.shutdown.2 := by
  obtain ⟨b', hpassed, -, -, hfailed | ⟨-, hdone⟩⟩ := shutdown_cases b
  · obtain ⟨e, hshutdown⟩ := hfailed
    rw [hshutdown]
    exact hpassed.evolves _
  · rw [hdone]
    exact (hpassed.evolves false).trans (evolves_deregister b' false)

/-- What makes calls of the broker fail moves nothing. -/
theorem passed_setGate (b : Bridge) (f : GatedBroker → GatedBroker) (calls : BrokerHistory)
    (hwaiting : (f b.outbox.gate).waiting = b.outbox.gate.waiting)
    (hbroker : (f b.outbox.gate).broker = b.outbox.gate.broker.run calls)
    (hsends : calls.sends = []) : b.Passed (b.setGate f) :=
  passed_outbox b (b.outbox.gate_moves _ hwaiting calls hbroker hsends) rfl

/-- **Step**: every action keeps the invariant. -/
theorem evolves_act (b : Bridge) (a : Action) : b.Evolves config a.starts (b.act a) := by
  -- all but the parts of starts and shutdowns, and a new listener, leave the listeners as they are
  cases a with
  | start => exact evolves_start b
  | shutdown => exact evolves_shutdown b
  | beginStart =>
    show b.Evolves config true b.beginStart.2
    rcases beginStart_cases b with ⟨e, hbegin⟩ | ⟨b', hpassed, hbegin⟩
    · rw [hbegin]
      exact (Passed.refl b).evolves _
    · rw [hbegin]
      exact (hpassed.evolves true).trans (evolves_register b')
  | finishStart => exact (passed_finishStart b).evolves _
  | beginShutdown => exact (passed_beginShutdown b).evolves _
  | endShutdown =>
    unfold act
    dsimp only
    split
    · rename_i answer _
      cases answer with
      | error e => exact (Passed.refl b).evolves _
      | ok u => exact evolves_deregister b _
    · exact (Passed.refl b).evolves _
  | connect url => exact (passed_connect b url).evolves _
  | disconnect => exact (passed_disconnect b).evolves _
  | monitor calls => exact (passed_await _ b _).evolves _
  | advance calls => exact (passed_advance b calls).evolves _
  | unmonitor texts =>
    exact (passed_withClient b (Client.silent_unmonitor b.client texts)).evolves _
  | startPolling nodes period => exact (passed_startPolling b nodes period).evolves _
  | stopPolling => exact (passed_set b b.client b.now none b.spawned).evolves _
  | change changes => exact (passed_set b b.client b.now b.timer _).evolves _
  | deliver event => exact (worked_deliver b event).passed.evolves _
  | listen => exact evolves_listen b
  | unlisten id =>
    unfold act
    dsimp only
    split
    · exact (Passed.refl b).evolves _
    · rename_i hother
      exact evolves_unlisten b hother _
  | link f => exact (passed_set b _ b.now b.timer b.spawned).evolves _
  | permit n => exact (passed_outbox b (b.outbox.permit_moves n) rfl).evolves _
  | failSends fail =>
    exact (passed_setGate b (fun g => { g with broker := g.broker.setFailing fail })
      [.setFailing fail] rfl rfl rfl).evolves _
  | failEnsure fail =>
    exact (passed_setGate b (fun g => { g with failEnsure := fail }) [] rfl rfl rfl).evolves _
  | failFlush fail =>
    exact (passed_setGate b (fun g => { g with failFlush := fail }) [] rfl rfl rfl).evolves _
  | stallFlush stall =>
    exact (passed_setGate b (fun g => { g with stallFlush := stall }) [] rfl rfl rfl).evolves _
  | sleep ms => exact (steady_passed.sleepUntil b _).evolves _
  | jump ms => exact (passed_set b b.client _ b.timer b.spawned).evolves _
  | settle => exact (passed_settle b).evolves _

/-- **Run**: every run keeps the invariant. -/
theorem evolves_run (b : Bridge) (actions : List Action) :
    b.Evolves config (actions.any Action.starts) (b.actAll actions) := by
  induction actions generalizing b with
  | nil => exact (Passed.refl b).evolves _
  | cons a rest ih => exact (evolves_act b a).trans (ih (b.act a))

theorem kept_run (config : Config) (gate : GatedBroker) (link : Link) (actions : List Action) :
    ((installed config gate link).actAll actions).Kept config :=
  (evolves_run _ actions).kept (kept_installed config gate link)

/-- **Every message is accounted for**: after any actions the broker has answered it, once, or its job is
under way. -/
theorem accounted_run (config : Config) (gate : GatedBroker) (link : Link) (actions : List Action) :
    let b := (installed config gate link).actAll actions
    (b.reported ++ b.outbox.jobs.map (·.traceId)).Perm (Stamp.traces 0 b.pipeline.issued) := by
  intro b
  have hrun : (installed config gate link).Evolves config (actions.any Action.starts) b :=
    evolves_run _ actions
  obtain ⟨sent, handed, hhands, -⟩ := hrun.hands
  have hissued : b.pipeline.issued = sent.length := hhands.issued.trans (Nat.zero_add _)
  have hreported : b.reported = handed.map (·.traceId) := hhands.reported
  have hjobs : sent.Perm (handed ++ b.outbox.jobs) := hhands.moves.jobs
  have htraces : sent.map (·.traceId) = Stamp.traces 0 sent.length := hhands.traces
  -- nothing was under way or reported at first, so what was sent is all that there is
  rw [hissued, ← htraces, hreported, ← List.map_append]
  exact (hjobs.map _).symm

/-! ## The lifecycle can be repeated -/

/-- The pipeline and the logger listen, once each, and where polling is enabled with a period a timer has
just been started. -/
structure Launched (config : Config) (b : Bridge) : Prop where
  listeners : b.ownListeners = [.pipeline, .logger]
  timer : config.pollingEnabled = true → config.pollingInterval.toNat ≠ 0 →
    b.timer = some ⟨config.pollingNodes, config.pollingInterval.toNat, b.now⟩

/-- Nothing is polled, and there is no connection. -/
structure Halted (b : Bridge) : Prop where
  polling : b.isPolling = false
  connected : b.client.manager.isConnected = false

/-- The last part of a start begins to poll as the configuration says. -/
theorem timer_finishStart (hconfig : b.config = config) (henabled : config.pollingEnabled = true)
    (hperiod : config.pollingInterval.toNat ≠ 0) : b.finishStart.timer
      = some ⟨config.pollingNodes, config.pollingInterval.toNat, b.finishStart.now⟩ := by
  have hfinish : b.finishStart
      = b.startPolling config.pollingNodes config.pollingInterval.toNat := by
    rw [finishStart, hconfig, if_pos henabled]
  rw [hfinish]
  show PollTimer.start config.pollingNodes config.pollingInterval.toNat b.now = _
  rw [PollTimer.start, if_neg hperiod]
  rfl

/-- A start that fails has changed nothing, and one that succeeds has launched the bridge. -/
theorem Kept.start (h : b.Kept config) : match b.start with
    | (.error _, b') => b' = b
    | (.ok (), b') => b'.Launched config := by
  rcases start_cases b with ⟨e, hstart⟩ | ⟨b₁, b₂, hbefore, hafter, hstart⟩
  · rw [hstart]
  · rw [hstart]
    have hfirst : b₁.Kept config := (hbefore.evolves true).kept h
    have hmonitored : b₂.Kept config := (hafter.evolves true).kept ((evolves_register b₁).kept hfirst)
    have hlast := passed_finishStart b₂
    have hend : b₂.finishStart.Kept config := (hlast.evolves true).kept hmonitored
    -- nobody has deregistered while the start waited for its monitor call
    have hfull : b₂.finishStart.registered ≠ [] := by
      rw [hlast.registered, hafter.registered]
      exact hfirst.listens.register.2
    constructor
    · rw [hend.listens.ownListeners, if_neg hfull]
    · intro henabled hperiod
      exact timer_finishStart hmonitored.configured henabled hperiod

/-- Every shutdown halts the bridge; one that fails leaves the listeners, and one that succeeds removes the
two. -/
theorem Kept.shutdown (h : b.Kept config) : b.shutdown.2.Halted ∧ match b.shutdown with
    | (.error _, b') => b'.registry = b.registry
    | (.ok (), b') => b'.registry.reached = b.registry.reached.filter (· = .recorder) := by
  obtain ⟨b', hpassed, hpolling, hconnected, hfailed | ⟨-, hdone⟩⟩ := shutdown_cases b
  · obtain ⟨e, hshutdown⟩ := hfailed
    rw [hshutdown]
    exact ⟨⟨hpolling, hconnected⟩, hpassed.registry⟩
  · have hlistens : b'.Listens := h.listens.keep hpassed.registry hpassed.registered
    rw [hdone]
    refine ⟨⟨hpolling, hconnected⟩, ?_⟩
    show b'.deregister.registry.reached = _
    rw [hlistens.deregister.2, hpassed.registry]

/-- **The lifecycle can be repeated**: after any actions the pipeline and the logger are registered once
each, or not at all.  A start that fails has changed nothing; one that succeeds leaves both registered and,
where polling is enabled with a period, a timer that has just been started.  Every shutdown leaves the
timer stopped and the connection closed; one that fails leaves the listeners as they were, and one that
succeeds removes the two and nobody else. -/
theorem repeatable_run (config : Config) (gate : GatedBroker) (link : Link) (actions : List Action) :
    let b := (installed config gate link).actAll actions
    (b.ownListeners = [] ∨ b.ownListeners = [.pipeline, .logger])
    ∧ (match b.start with
      | (.error _, b') => b' = b
      | (.ok (), b') => b'.Launched config)
    ∧ b.shutdown.2.Halted
    ∧ match b.shutdown with
      | (.error _, b') => b'.registry = b.registry
      | (.ok (), b') => b'.registry.reached = b.registry.reached.filter (· = .recorder) := by
  intro b
  have hkept : b.Kept config := kept_run config gate link actions
  refine ⟨?_, hkept.start, hkept.shutdown⟩
  rw [hkept.listens.ownListeners]
  split
  · exact Or.inl rfl
  · exact Or.inr rfl

/-- A node that is monitored and polled. -/
def tankExample : Config := { nodes := ["i=1"], pollingEnabled := true, pollingNodes := ["i=1"] }

/-- A server to which a client can connect. -/
def openLink : Link := { server := { endpoints := [⟨"opc.tcp://mock:4840", .plain⟩] } }

/-- The topic cannot be created at first, then the bridge is started twice and shut down. -/
def restartedExample : List Action :=
  [.listen, .failEnsure true, .start, .failEnsure false, .start, .sleep 5, .start, .shutdown]

theorem repeatable_restartedExample :
    let b := (installed tankExample {} openLink).actAll restartedExample
    b.ownListeners = [] ∧ tankExample.pollingEnabled = true ∧ tankExample.pollingInterval.toNat ≠ 0
    ∧ b.start.1 = .ok () ∧ b.start.2.ownListeners = [.pipeline, .logger]
    ∧ b.start.2.timer = some ⟨["i=1"], 1000, b.start.2.now⟩ := by
  intro b
  have hanswer : b.start.1 = .ok () := by decide +kernel
  have hstart : b.start = (.ok (), b.start.2) := Prod.ext hanswer rfl
  have hlaunched : match b.start with
      | (.error _, b') => b' = b
      | (.ok (), b') => b'.Launched tankExample :=
    (repeatable_run tankExample {} openLink restartedExample).2.1
  rw [hstart] at hlaunched
  have hperiod : tankExample.pollingInterval.toNat ≠ 0 := by decide
  exact ⟨by decide +kernel, rfl, hperiod, hanswer, hlaunched.listeners,
    hlaunched.timer rfl hperiod⟩

/-! ## Nothing is published after a shutdown -/

/-- What a shutdown that succeeds comes to: it was awaited, or other things happened while it waited for its
flush, which then is answered. -/
inductive ShutsDown (b : Bridge) : Bridge → Prop where
  | awaited (h : b.shutdown.1 = .ok ()) : b.ShutsDown b.shutdown.2
  | waited (h : b.tryFlush = some (.ok ())) : b.ShutsDown (b.finishShutdown (.ok ())).2

/-- A shutdown that succeeds has found nothing in flight, and has deregistered. -/
theorem ShutsDown.kept (h : b.ShutsDown b') (hkept : b.Kept config) :
    b'.Kept config ∧ b'.outbox.inFlight = 0 ∧ b'.registered = [] := by
  cases h with
  | awaited hanswer =>
    obtain ⟨b₁, hpassed, -, -, hfailed | ⟨hflush, hdone⟩⟩ := shutdown_cases b
    · obtain ⟨e, hshutdown⟩ := hfailed
      rw [hshutdown] at hanswer
      exact absurd hanswer (by simp)
    · rw [hdone]
      have hfirst : b₁.Kept config := (hpassed.evolves false).kept hkept
      exact ⟨(evolves_deregister b₁ false).kept hfirst, inFlight_of_tryFlush hflush, rfl⟩
  | waited hflush =>
    exact ⟨(evolves_deregister b false).kept hkept, inFlight_of_tryFlush hflush, rfl⟩

/-- **Nothing is published after a shutdown**: when a shutdown has succeeded, after any actions, nothing is
in flight; and whatever is done then, unless the bridge is started, no job is sent, none is handed to the
broker, none is reported, and no topic gets a record. -/
theorem silent_run (config : Config) (gate : GatedBroker) (link : Link) (before later : List Action)
    {b : Bridge} (hshutdown : ((installed config gate link).actAll before).ShutsDown b)
    (hlater : later.any Action.starts = false) :
    b.outbox.inFlight = 0 ∧ (b.actAll later).outbox.inFlight = 0 ∧ b.Hands [] [] (b.actAll later)
    ∧ ∀ topic, (b.actAll later).outbox.gate.broker.records topic
      = b.outbox.gate.broker.records topic := by
  obtain ⟨hkept, hidle, hempty⟩ := hshutdown.kept (kept_run config gate link before)
  have hrun : b.Evolves config (later.any Action.starts) (b.actAll later) := evolves_run b later
  have hend := hrun.kept hkept
  obtain ⟨sent, handed, hhands, hnone⟩ := hrun.hands
  obtain ⟨-, rfl⟩ := hnone hlater hkept hempty
  -- nothing was under way, and nothing was sent, so nothing could be handed over
  have hjobs : b.outbox.jobs = [] := by
    have hcount : b.outbox.inFlight = b.outbox.jobs.length := hkept.counted
    exact List.eq_nil_of_length_eq_zero (hcount.symm.trans hidle)
  obtain ⟨rfl, hjobs'⟩ := hhands.moves.none hjobs
  have hcount : (b.actAll later).outbox.inFlight = (b.actAll later).outbox.jobs.length := hend.counted
  rw [hjobs'] at hcount
  exact ⟨hidle, hcount, hhands, hhands.moves.records⟩

/-- A change is published, and another one has been told when the bridge is shut down. -/
def changedExample : List Action :=
  [.start, .change [⟨"i=1", .good (.int 5)⟩], .settle, .change [⟨"i=1", .good (.int 6)⟩]]

/-- The second change is read after the shutdown, and a third one is told. -/
def afterwardsExample : List Action :=
  [.settle, .change [⟨"i=1", .good (.int 7)⟩], .permit 1, .sleep 2000, .deliver { nodeId := some "i=1" }]

theorem silent_changedExample :
    let b := (installed tankExample {} openLink).actAll changedExample
    b.shutdown.1 = .ok () ∧ afterwardsExample.any Action.starts = false
    ∧ (b.shutdown.2.actAll afterwardsExample).outbox.inFlight = 0
    ∧ (b.shutdown.2.outbox.records).length = 2
    ∧ (b.shutdown.2.actAll afterwardsExample).outbox.gate.broker.records "opcua-events"
      = b.shutdown.2.outbox.gate.broker.records "opcua-events" := by
  intro b
  have hanswer : b.shutdown.1 = .ok () := by decide +kernel
  obtain ⟨-, hidle, -, hrecords⟩ := silent_run tankExample {} openLink changedExample
    afterwardsExample (ShutsDown.awaited hanswer) rfl
  exact ⟨hanswer, rfl, hidle, by decide +kernel, hrecords "opcua-events"⟩

/-! ## A shutdown that failed has lost nothing -/

/-- **A shutdown that failed has lost nothing**, after any actions: the listeners are as they were, and the
jobs under way before and those sent meanwhile are those handed to the broker meanwhile and those still
under way, which are counted.  This is so for whatever is done afterwards, too.  At any time then each job
that the gate holds back is handed over when it gets its permit; and when nothing is in flight and the
broker confirms the next shutdown succeeds and deregisters. -/
theorem retained_run (config : Config) (gate : GatedBroker) (link : Link) (before : List Action)
    {e : Error} (hfailed : ((installed config gate link).actAll before).shutdown.1 = .error e) :
    let b := (installed config gate link).actAll before
    let b' := b.shutdown.2
    b'.registry = b.registry ∧ b'.registered = b.registered
    ∧ (∃ sent handed, b.Hands sent handed b') ∧ b'.outbox.inFlight = b'.outbox.jobs.length
    ∧ ∀ later, let last := b'.actAll later
      (∃ sent handed, b'.Hands sent handed last) ∧ last.outbox.inFlight = last.outbox.jobs.length
      ∧ (∀ n, ∃ sent handed, last.Hands sent handed (last.act (.permit n)).settle
        ∧ (last.outbox.gate.waiting.take n).Sublist handed)
      ∧ (last.outbox.inFlight = 0 → last.outbox.gate.flush = some (.ok ()) →
        last.shutdown.1 = .ok ()
        ∧ last.shutdown.2.registry.reached = last.registry.reached.filter (· = .recorder)) := by
  intro b b'
  have hkept : b.Kept config := kept_run config gate link before
  obtain ⟨b₁, hpassed, -, -, hcause | ⟨-, hdone⟩⟩ := shutdown_cases b
  · obtain ⟨cause, hshutdown⟩ := hcause
    have heq : b' = b₁ := congrArg Prod.snd hshutdown
    rw [heq]
    have hkept' : b₁.Kept config := (hpassed.evolves false).kept hkept
    obtain ⟨sent, handed, hhands, -⟩ := hpassed.hands
    refine ⟨hpassed.registry, hpassed.registered, ⟨sent, handed, hhands⟩, hkept'.counted,
      fun later => ?_⟩
    have hrun : b₁.Evolves config (later.any Action.starts) (b₁.actAll later) := evolves_run b₁ later
    have hend := hrun.kept hkept'
    obtain ⟨sent', handed', hhands', -⟩ := hrun.hands
    refine ⟨⟨sent', handed', hhands'⟩, hend.counted, fun n => ?_, fun hidle hflush => ?_⟩
    · exact hands_permit _ n
    · exact shutdown_of_inFlight hend.listens hidle hflush
  · exact absurd hfailed (by show b.shutdown.1 ≠ _; rw [hdone]; simp)

/-- Every job gets its permit. -/
def releasedExample : List Action := [.permit 4, .settle]

theorem retained_releasedExample :
    let b := (installed tankExample { closed := true } openLink).actAll changedExample
    let last := b.shutdown.2.actAll releasedExample
    b.shutdown.1 = .error (.flushTimeout 30) ∧ b.shutdown.2.outbox.inFlight = 3
    ∧ last.outbox.inFlight = 0 ∧ last.outbox.gate.flush = some (.ok ())
    ∧ last.outbox.records.length = 3
    ∧ last.shutdown.1 = .ok ()
    ∧ last.shutdown.2.registry.reached = last.registry.reached.filter (· = .recorder) := by
  intro b last
  have hfailed : b.shutdown.1 = .error (.flushTimeout 30) := by decide +kernel
  have hidle : last.outbox.inFlight = 0 := by decide +kernel
  have hflush : last.outbox.gate.flush = some (.ok ()) := by decide +kernel
  obtain ⟨-, -, -, -, hlater⟩ :=
    retained_run tankExample { closed := true } openLink changedExample hfailed
  obtain ⟨-, -, -, hnext⟩ := hlater releasedExample
  obtain ⟨hanswer, hlisteners⟩ := hnext hidle hflush
  exact ⟨hfailed, by decide +kernel, hidle, hflush, by decide +kernel, hanswer, hlisteners⟩

end FieldBridge.Bridge
