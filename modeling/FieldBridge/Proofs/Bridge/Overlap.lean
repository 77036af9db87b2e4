/-
  Starts and shutdowns of several callers.

  A bridge that observes values has to have its pipeline registered, or the values are lost.  A start
  registers it before it observes anything, and a shutdown removes it when nothing is observed any more.

  1. **Calls** — any number of starts and shutdowns are under way.  A start is cut at its monitor call and a
     shutdown at its flush, and in between anything else happens that is no lifecycle call.

  2. **Invariant** (`Inv`) — as long as no start is under way together with a shutdown, a bridge without the
     pipeline neither polls nor has a connection.

  3. **Results** — so whatever is observed is heard (`heard_run`).  A start within a shutdown finds the
     pipeline registered and adds nothing, and then the shutdown removes it: the bridge that is left observes
     without anybody listening (`stranded_run`).
-/

import FieldBridge.Proofs.Bridge.Lifecycle
import FieldBridge.Proofs.Source.Entries

namespace FieldBridge

/-! ## Calls in progress and the connection -/

namespace Manager

theorem isConnected_modify (m : Manager) (id : ConnectionId) (f : Connection → Connection) :
    (m.modify id f).isConnected = m.isConnected := by
  unfold isConnected connection?
  show (m.current.bind fun id' => ((m.modify id f).get? id').bind _).isSome
    = (m.current.bind fun id' => (m.get? id').bind _).isSome
  cases m.current with
  | none => rfl
  | some id' => cases hget : m.get? id' <;> simp [get?_modify, hget]

end Manager

namespace Client

theorem isConnected_opened (c : Client) (id : ConnectionId) (claim : Claim) :
    (c.opened id claim).2.2.manager.isConnected = c.manager.isConnected :=
  Manager.isConnected_modify _ _ _

theorem isConnected_subscribe (c : Client) (now : Nat) (id : ConnectionId) (claim : Claim) :
    (c.subscribe now id claim).2.2.manager.isConnected = c.manager.isConnected := by
  unfold subscribe
  split
  · rfl
  · split
    · rfl
    · rfl
    · split
      · exact Manager.isConnected_modify _ _ _
      · exact isConnected_opened _ _ _
      · exact Manager.isConnected_modify _ _ _

theorem isConnected_conclude (c : Client) (id : ConnectionId) (claim : Claim)
    (answer : Except TransportError (List ItemResult)) :
    (c.conclude id claim answer).2.manager.isConnected = c.manager.isConnected := by
  unfold conclude
  split
  · exact Manager.isConnected_modify _ _ _
  · split
    · rfl
    · exact Manager.isConnected_modify _ _ _

/-- **Step**: a monitor call neither connects nor disconnects. -/
theorem isConnected_step (c : Client) (now : Nat) (call : MonitorCall) :
    (c.step now call).2.2.manager.isConnected = c.manager.isConnected := by
  cases call with
  | asking texts =>
    show (c.ask texts).2.2.manager.isConnected = _
    unfold ask
    split
    · rfl
    · exact Manager.isConnected_modify _ _ _
  | waiting id claim => exact isConnected_subscribe c now id claim
  | opening id claim due =>
    unfold step
    dsimp only
    split
    · exact isConnected_opened c id claim
    · rfl
  | recording id claim answer => exact isConnected_conclude c id claim answer

theorem isConnected_advance (c : Client) (now : Nat) (call : MonitorCall) :
    (c.advance now call).2.2.manager.isConnected = c.manager.isConnected := by
  fun_induction advance c now call with
  | case1 c call notices c' hstep =>
    have hc := isConnected_step c now call
    rwa [hstep] at hc
  | case2 c call notices next c' hstep hlt more next' c'' hmore ih =>
    have hc := isConnected_step c now call
    rw [hstep] at hc
    rw [hmore] at ih
    exact ih.trans hc
  | case3 c call notices next c' hstep hlt =>
    have hc := isConnected_step c now call
    rwa [hstep] at hc

theorem isConnected_advanceAll (now : Nat) (c : Client) (calls : List MonitorCall) :
    (advanceAll now c calls).2.2.manager.isConnected = c.manager.isConnected := by
  induction calls generalizing c with
  | nil => rfl
  | cons call rest ih => exact (ih (c.advance now call).2.2).trans (isConnected_advance c now call)

end Client

namespace Bridge

/-- The action is no call that connects, disconnects, polls or registers. -/
def Action.isBackground : Action → Bool
  | .start | .shutdown | .beginStart | .finishStart | .beginShutdown | .endShutdown => false
  | .connect _ | .disconnect | .monitor _ | .unmonitor _ | .startPolling _ _ | .stopPolling => false
  | _ => true

/-- The bridge polls, or a node is monitored on its connection. -/
def Observes (b : Bridge) : Prop := b.isPolling = true ∨ b.client.monitoredTexts ≠ []

/-- Values that are observed are heard by the pipeline. -/
def Heard (b : Bridge) : Prop := b.Observes → .pipeline ∈ b.registry.reached

variable {b : Bridge}

theorem Halted.not_observes (h : b.Halted) : ¬ b.Observes := by
  rintro (hpolling | hmonitored)
  · rw [h.polling] at hpolling
    cases hpolling
  · have hconnection : b.client.manager.connection? = none :=
      Option.not_isSome_iff_eq_none.1 (Bool.eq_false_iff.1 h.connected)
    apply hmonitored
    unfold Client.monitoredTexts
    rw [hconnection]

/-- What happens in the background keeps the handles, and does not begin or cease to observe. -/
theorem act_background {a : Action} (ha : a.isBackground = true) :
    (b.act a).registered = b.registered ∧ (b.act a).isPolling = b.isPolling
      ∧ (b.act a).client.manager.isConnected = b.client.manager.isConnected := by
  -- monitor calls, tasks and time reach the client or the timer; the rest does not
  cases a with
  | start | shutdown | beginStart | finishStart | beginShutdown | endShutdown => cases ha
  | connect | disconnect | monitor | unmonitor | startPolling | stopPolling => cases ha
  | advance calls => exact ⟨rfl, rfl, Client.isConnected_advanceAll b.now b.client calls⟩
  | deliver event =>
    have h := worked_deliver b event
    exact ⟨h.registered, congrArg Option.isSome h.timer, congrArg Manager.isConnected h.manager⟩
  | unlisten id =>
    unfold act
    dsimp only
    split
    · exact ⟨rfl, rfl, rfl⟩
    · exact ⟨rfl, rfl, rfl⟩
  | sleep ms =>
    obtain ⟨hmanager, hpolling⟩ := steady_source.sleepUntil b (b.now + ms)
    exact ⟨(steady_passed.sleepUntil b _).registered, hpolling, congrArg Manager.isConnected hmanager⟩
  | settle =>
    obtain ⟨hmanager, -, hpolling⟩ := settle_keeps b
    exact ⟨(passed_settle b).registered, hpolling, congrArg Manager.isConnected hmanager⟩
  | change | listen | link | permit | failSends | failEnsure | failFlush | stallFlush | jump =>
    exact ⟨rfl, rfl, rfl⟩

end Bridge

/-! ## Calls -/

open Bridge

/-- A bridge that several callers start and shut down. -/
structure SharedBridge where
  bridge : Bridge
  /-- The starts that have registered the listeners and monitor now. -/
  starting : Nat := 0
  /-- The shutdowns that wait for their flush. -/
  stopping : Nat := 0

namespace SharedBridge

/-- What can happen. -/
inductive Event where
  | beginStart
  /-- A start whose monitor call has ended goes on to its end. -/
  | finishStart
  | beginShutdown
  /-- A shutdown looks whether its flush is complete. -/
  | look
  /-- A shutdown is at its deadline. -/
  | giveUp
  | background (a : Action)

/-- One event. -/
def step (t : SharedBridge) : Event → SharedBridge
  | .beginStart => match t.bridge.beginStart with
    | (.error _, bridge) => { t with bridge }
    | (.ok (), bridge) => { t with bridge, starting := t.starting + 1 }
  | .finishStart =>
    if t.starting = 0 then t
    else { t with bridge := t.bridge.finishStart, starting := t.starting - 1 }
  | .beginShutdown => { t with bridge := t.bridge.beginShutdown, stopping := t.stopping + 1 }
  | .look =>
    if t.stopping = 0 then t
    else match t.bridge.tryFlush with
      | none => t
      | some answer =>
        { t with bridge := (t.bridge.finishShutdown answer).2, stopping := t.stopping - 1 }
  | .giveUp => { t with stopping := t.stopping - 1 }
  | .background a => if a.isBackground then { t with bridge := t.bridge.act a } else t

/-- A run. -/
def run (t : SharedBridge) (events : List Event) : SharedBridge := events.foldl step t

/-- The event does not put a start and a shutdown under way together. -/
def Event.isApart (t : SharedBridge) : Event → Bool
  | .beginStart => t.stopping = 0
  | .beginShutdown => t.starting = 0
  | _ => true

/-- No event of a run does. -/
def isApart : SharedBridge → List Event → Bool
  | _, [] => true
  | t, e :: rest => e.isApart t && isApart (t.step e) rest

/-! ## Invariant -/

/-- **The invariant**: while a start is under way the handles are kept, while a shutdown is nothing is
observed, and without handles nothing is observed either. -/
structure Inv (config : Config) (t : SharedBridge) : Prop where
  kept : t.bridge.Kept config
  apart : t.starting = 0 ∨ t.stopping = 0
  starting : 0 < t.starting → t.bridge.registered ≠ []
  stopping : 0 < t.stopping → t.bridge.Halted
  silent : t.bridge.registered = [] → t.bridge.Halted

variable {config : Config} {t : SharedBridge}

theorem inv_installed (config : Config) (gate : GatedBroker) (link : Link) :
    Inv config { bridge := installed config gate link } where
  kept := kept_installed config gate link
  apart := Or.inl rfl
  starting := fun h => absurd h (Nat.lt_irrefl 0)
  stopping := fun h => absurd h (Nat.lt_irrefl 0)
  silent := fun _ => ⟨rfl, rfl⟩

theorem Inv.heard (h : Inv config t) : t.bridge.Heard := by
  intro hobserves
  rw [h.kept.listens.pipeline_mem]
  intro hnone
  exact (h.silent hnone).not_observes hobserves

/-- A start begins, and no shutdown is under way. -/
theorem Inv.beginStart (h : Inv config t) (hstopping : t.stopping = 0) :
    Inv config (t.step .beginStart) := by
  have hkept := (evolves_act t.bridge .beginStart).kept h.kept
  have hact : t.bridge.act .beginStart = t.bridge.beginStart.2 := rfl
  rw [hact] at hkept
  unfold step
  dsimp only
  rcases beginStart_cases t.bridge with ⟨e, hbegin⟩ | ⟨b', hpassed, hbegin⟩
  · rw [hbegin]
    exact h
  · rw [hbegin] at hkept ⊢
    -- the handles are new, or those of an earlier start
    have hfull : b'.register.registered ≠ [] :=
      (h.kept.listens.keep hpassed.registry hpassed.registered).register.2
    exact {
      kept := hkept
      apart := Or.inr hstopping
      starting := fun _ => hfull
      stopping := fun hpos => absurd hstopping (Nat.ne_of_gt hpos)
      silent := fun hnone => absurd hnone hfull }

/-- A start ends; its handles are still there. -/
theorem Inv.finishStart (h : Inv config t) : Inv config (t.step .finishStart) := by
  unfold step
  dsimp only
  split
  · exact h
  · rename_i hsome
    have hpassed := passed_finishStart t.bridge
    -- no shutdown is under way that could have removed the handles
    have hstopping : t.stopping = 0 := h.apart.resolve_left hsome
    have hfull : t.bridge.finishStart.registered ≠ [] := by
      rw [hpassed.registered]
      exact h.starting (Nat.pos_of_ne_zero hsome)
    exact {
      kept := (hpassed.evolves true).kept h.kept
      apart := Or.inr hstopping
      starting := fun _ => hfull
      stopping := fun hpos => absurd hstopping (Nat.ne_of_gt hpos)
      silent := fun hnone => absurd hnone hfull }

/-- A shutdown begins, and no start is under way. -/
theorem Inv.beginShutdown (h : Inv config t) (hstarting : t.starting = 0) :
    Inv config (t.step .beginShutdown) := by
  have hhalted : t.bridge.beginShutdown.Halted :=
    ⟨rfl, Manager.isConnected_closeCurrent Link.transport t.bridge.client.manager t.bridge.client.link⟩
  exact {
    kept := ((passed_beginShutdown t.bridge).evolves true).kept h.kept
    apart := Or.inl hstarting
    starting := fun hpos => absurd hstarting (Nat.ne_of_gt hpos)
    stopping := fun _ => hhalted
    silent := fun _ => hhalted }

/-- A shutdown ends with what its flush has come to; nothing is observed that could be missed. -/
theorem Inv.finishShutdown (h : Inv config t) (hpos : 0 < t.stopping) (answer : Except Error Unit) :
    Inv config { t with
      bridge := (t.bridge.finishShutdown answer).2, stopping := t.stopping - 1 } := by
  have hstarting : t.starting = 0 := h.apart.resolve_right (Nat.ne_of_gt hpos)
  have hhalted := h.stopping hpos
  cases answer with
  | error e => exact {
      kept := h.kept
      apart := Or.inl hstarting
      starting := h.starting
      stopping := fun _ => hhalted
      silent := fun _ => hhalted }
  | ok u => exact {
      kept := (evolves_deregister t.bridge true).kept h.kept
      apart := Or.inl hstarting
      starting := fun hstart => absurd hstarting (Nat.ne_of_gt hstart)
      stopping := fun _ => ⟨hhalted.polling, hhalted.connected⟩
      silent := fun _ => ⟨hhalted.polling, hhalted.connected⟩ }

/-- Something happens in the background. -/
theorem Inv.background (h : Inv config t) {a : Action} (ha : a.isBackground = true) :
    Inv config { t with bridge := t.bridge.act a } := by
  obtain ⟨hregistered, hpolling, hconnected⟩ := act_background ha (b := t.bridge)
  have hhalted : t.bridge.Halted → (t.bridge.act a).Halted := by
    rintro ⟨hquiet, hidle⟩
    exact ⟨hpolling.trans hquiet, hconnected.trans hidle⟩
  exact {
    kept := (evolves_act t.bridge a).kept h.kept
    apart := h.apart
    starting := by
      intro hpos
      rw [hregistered]
      exact h.starting hpos
    stopping := fun hpos => hhalted (h.stopping hpos)
    silent := fun hnone => hhalted (h.silent (hregistered.symm.trans hnone)) }

/-- **Step**: every event that keeps starts and shutdowns apart keeps the invariant. -/
theorem Inv.step (h : Inv config t) {e : Event} (he : e.isApart t = true) : Inv config (t.step e) := by
  cases e with
  | beginStart => exact h.beginStart (of_decide_eq_true he)
  | finishStart => exact h.finishStart
  | beginShutdown => exact h.beginShutdown (of_decide_eq_true he)
  | look =>
    unfold SharedBridge.step
    dsimp only
    split
    · exact h
    · rename_i hsome
      split
      · exact h
      · exact h.finishShutdown (Nat.pos_of_ne_zero hsome) _
  | giveUp =>
    rcases Nat.eq_zero_or_pos t.stopping with hzero | hpos
    · have hsame : t.step .giveUp = t := by
        obtain ⟨bridge, starting, stopping⟩ := t
        obtain rfl : stopping = 0 := hzero
        rfl
      rw [hsame]
      exact h
    · exact h.finishShutdown hpos (.error (.flushTimeout 0))
  | background a =>
    unfold SharedBridge.step
    dsimp only
    split
    · rename_i ha
      exact h.background ha
    · exact h

/-- **Run**: every run that keeps them apart does. -/
theorem Inv.run (h : Inv config t) (events : List Event) (hapart : t.isApart events = true) :
    Inv config (t.run events) := by
  induction events generalizing t with
  | nil => exact h
  | cons e rest ih =>
    obtain ⟨hfirst, hrest⟩ := Bool.and_eq_true_iff.1 hapart
    exact ih (h.step hfirst) hrest

/-! ## Results -/

/-- **Heard**: as long as no start is under way together with a shutdown, the pipeline hears whatever is
observed, also while calls are under way. -/
theorem heard_run (config : Config) (gate : GatedBroker) (link : Link) (events : List Event)
    (hapart : isApart { bridge := installed config gate link } events = true) :
    (run { bridge := installed config gate link } events).bridge.Heard :=
  ((inv_installed config gate link).run events hapart).heard

/-- A start behind a shutdown. -/
def restarted : List Event :=
  [.beginStart, .background (.advance [.asking ["i=1"]]), .finishStart, .beginShutdown, .look,
    .beginStart, .background (.advance [.asking ["i=1"]]), .finishStart]

theorem heard_restarted :
    let t := run { bridge := installed tankExample {} openLink } restarted
    t.bridge.isPolling = true ∧ t.bridge.client.monitoredTexts = ["i=1"]
      ∧ .pipeline ∈ t.bridge.registry.reached := by
  intro t
  have hpolling : t.bridge.isPolling = true := by decide +kernel
  refine ⟨hpolling, by decide +kernel, ?_⟩
  exact heard_run tankExample {} openLink restarted (by decide +kernel) (Or.inl hpolling)

/-- A shutdown waits for jobs that the gate holds back.  Meanwhile a start finds the handles and runs to its
end; then the jobs pass, and the shutdown ends, too. -/
def overlapping : List Event :=
  [.beginStart, .background (.advance [.asking ["i=1"]]), .finishStart,
    .background (.change [⟨"i=1", .good (.int 1)⟩]), .background .settle, .beginShutdown, .look,
    .beginStart, .background (.advance [.asking ["i=1"]]), .finishStart,
    .background (.permit 4), .background .settle, .look]

/-- **Stranded**: a start within a shutdown leaves a bridge that polls and monitors with nobody listening, and
no message is made of a value that changes then. -/
theorem stranded_run :
    let t := run { bridge := installed tankExample { closed := true } openLink } overlapping
    let later := t.run [.background (.change [⟨"i=1", .good (.int 2)⟩]), .background .settle]
    t.starting = 0 ∧ t.stopping = 0 ∧ t.bridge.isPolling = true
      ∧ t.bridge.client.monitoredTexts = ["i=1"] ∧ t.bridge.registry.reached = []
      ∧ later.bridge.pipeline.issued = t.bridge.pipeline.issued := by
  decide +kernel

end SharedBridge

end FieldBridge
