/-
  What a bridge does by itself.

  1. **Tasks at work** read, report and deliver.  They leave the connection, the listeners and the timer
     as they are; what they do to the outbox is to send one job for each message that the pipeline makes,
     and it makes none unless it listens (`Worked`).

  2. **Custody** — over any stretch of time one job is sent for each message made, jobs are handed to the
     broker, and the log reports each job handed over once (`Hands`).

  3. **Letting things run** leaves the listeners as they are, and jobs are sent only if the pipeline is
     among them (`Passed`).  So does everything else that neither starts nor shuts down the bridge.

  4. **Time** passes by settling and setting the clock in turn, so what both of these respect the passing
     of time respects (`Steady`).
-/

import FieldBridge.Bridge.Lifecycle
import FieldBridge.Proofs.Sink.Custody
import FieldBridge.Proofs.Source.Log

namespace FieldBridge

/-! ## Messages -/

/-- The trace id of the `n`-th stamp, at whatever time. -/
def Stamp.trace (n : Nat) : String := String.ofList (Guid.random n).text

theorem Stamp.traceId_of (n : Nat) (time : Instant) : (Stamp.of n time).traceId = Stamp.trace n := rfl

/-- The trace ids of so many messages, counted from a number. -/
def Stamp.traces (first count : Nat) : List String := (List.range' first count).map Stamp.trace

theorem Stamp.traces_append (first m n : Nat) :
    traces first (m + n) = traces first m ++ traces (first + m) n := by
  rw [traces, traces, traces, ← List.map_append, List.range'_append_1]

/-- A pipeline makes no message of an event, or one with its next stamp. -/
theorem Pipeline.pipe_cases (p : Pipeline) (time : Instant) (event : AttributeSet) :
    p.pipe time (.delivered event) = (none, p)
    ∨ ∃ m, p.pipe time (.delivered event) = (some m, { p with issued := p.issued + 1 })
      ∧ m.metadata.traceId = Stamp.trace p.issued := by
  cases hempty : event.isEmpty with
  | true => exact Or.inl (by simp [pipe, Item.event?, create, Message.ofEvent?, hempty])
  | false =>
    let stamp := Stamp.of p.issued time
    let m : Message := ⟨⟨p.aggregateId, stamp.traceId, stamp.time⟩, Payload.ofEvent event⟩
    refine Or.inr ⟨m, ?_, Stamp.traceId_of p.issued time⟩
    simp [pipe, Item.event?, create, Message.ofEvent?, hempty, m, stamp]

namespace Bridge

open FieldBridge.Notice (Silent)

/-! ## Tasks at work -/

/-- Tasks have worked. -/
structure Worked (b b' : Bridge) : Prop where
  config : b'.config = b.config
  now : b'.now = b.now
  manager : b'.client.manager = b.client.manager
  registry : b'.registry = b.registry
  registered : b'.registered = b.registered
  timer : b'.timer = b.timer
  spawned : b'.spawned = b.spawned
  sent : ∃ sent, b'.outbox = b.outbox.enqueue sent
    ∧ b'.pipeline = { b.pipeline with issued := b.pipeline.issued + sent.length }
    ∧ sent.map (·.traceId) = Stamp.traces b.pipeline.issued sent.length
    ∧ (.pipeline ∉ b.registry.reached → sent = [])
  logged : ∃ notices, b'.notices = notices ++ b.notices ∧ Silent notices

variable {b b' b'' : Bridge}

theorem Worked.refl (b : Bridge) : b.Worked b where
  config := rfl
  now := rfl
  manager := rfl
  registry := rfl
  registered := rfl
  timer := rfl
  spawned := rfl
  sent := ⟨[], (Outbox.enqueue_nil _).symm, rfl, rfl, fun _ => rfl⟩
  logged := ⟨[], rfl, Notice.silent_nil⟩

theorem Worked.trans (h : b.Worked b') (h' : b'.Worked b'') : b.Worked b'' where
  config := h'.config.trans h.config
  now := h'.now.trans h.now
  manager := h'.manager.trans h.manager
  registry := h'.registry.trans h.registry
  registered := h'.registered.trans h.registered
  timer := h'.timer.trans h.timer
  spawned := h'.spawned.trans h.spawned
  sent := by
    obtain ⟨sent, houtbox, hpipeline, htraces, hnone⟩ := h.sent
    obtain ⟨more, hmore, hpipeline', htraces', hnone'⟩ := h'.sent
    rw [hpipeline] at hpipeline' htraces'
    rw [h.registry] at hnone'
    refine ⟨sent ++ more, ?_, ?_, ?_, fun hsilent => ?_⟩
    · rw [hmore, houtbox, Outbox.enqueue_enqueue]
    · rw [hpipeline', List.length_append, ← Nat.add_assoc]
    · rw [List.map_append, htraces, htraces', List.length_append, Stamp.traces_append]
    · rw [hnone hsilent, hnone' hsilent, List.append_nil]
  logged := by
    obtain ⟨notices, hnotices, hsilent⟩ := h.logged
    obtain ⟨more, hmore, hsilent'⟩ := h'.logged
    refine ⟨more ++ notices, ?_, Notice.silent_append.2 ⟨hsilent', hsilent⟩⟩
    rw [hmore, hnotices, List.append_assoc]

/-- Steps of work one after another. -/
theorem Worked.foldl {α : Type} {f : Bridge → α → Bridge} {steps : List α}
    (hstep : ∀ b', b.Worked b' → ∀ x ∈ steps, b'.Worked (f b' x)) : b.Worked (steps.foldl f b) := by
  induction steps generalizing b with
  | nil => exact Worked.refl b
  | cons x rest ih =>
    -- the later steps are steps of what `b` has become, so they are known to work, too
    have hfirst := hstep b (Worked.refl b) x List.mem_cons_self
    refine hfirst.trans (ih fun b' h y hy => ?_)
    exact hstep b' (hfirst.trans h) y (List.mem_cons_of_mem _ hy)

/-- Logging what is no report. -/
theorem worked_log (b : Bridge) {notices : List Notice} (h : Silent notices) :
    b.Worked (b.log notices) :=
  { Worked.refl b with logged := ⟨notices.reverse, rfl, Notice.silent_reverse.2 h⟩ }

/-- The link to the server does not matter. -/
theorem worked_link (b : Bridge) (link : Link) :
    b.Worked { b with client := { b.client with link } } :=
  { Worked.refl b with }

/-- Of the listeners only the pipeline sends. -/
theorem worked_call (b : Bridge) (event : AttributeSet) {l : Listener}
    (hl : l ∈ b.registry.reached) : b.Worked (b.call event l) := by
  cases l with
  | recorder => exact { Worked.refl b with }
  | logger => exact worked_log b (by simp [Notice.traceId?])
  | pipeline =>
    rcases b.pipeline.pipe_cases b.time event with hpipe | ⟨m, hpipe, htrace⟩
    · simp only [call, hpipe]
      exact Worked.refl b
    · simp only [call, hpipe]
      exact { Worked.refl b with
        sent := ⟨[b.outbox.sink.job m], Outbox.send_eq _ _, rfl, congrArg (fun t => [t]) htrace,
          fun hsilent => absurd hl hsilent⟩ }

theorem worked_deliver (b : Bridge) (event : AttributeSet) : b.Worked (b.deliver event) := by
  refine Worked.foldl fun b' h l hl => worked_call b' event ?_
  -- no listener that was called before has changed the registry
  rw [h.registry]
  exact hl

theorem worked_finish (b : Bridge) (t : ReadTask) (outcome : Except ReadError AttributeSet) :
    b.Worked (b.finish t outcome) := by
  have hlogged := worked_log b (t.silent_event outcome)
  unfold finish
  dsimp only
  split
  · exact hlogged.trans (worked_deliver _ _)
  · exact hlogged

theorem worked_resume (b : Bridge) (d : Delayed) : b.Worked (b.resume d) := by
  let link := (b.client.link.endRead d.faults d.reading.request).2
  have hanswer : b.Worked (b.answer d.faults d.reading).2 :=
    (worked_link b link).trans (worked_log _ (Reading.silent_complete _ _ _))
  exact hanswer.trans (worked_finish _ _ _)

theorem worked_run (b : Bridge) (t : ReadTask) : b.Worked (b.run t) := by
  unfold run
  split
  · exact worked_finish b t _
  · rename_i r _
    have hask : b.Worked (b.ask r).2 := worked_link b _
    dsimp only
    split
    · exact hask.trans (worked_resume _ _)
    · exact hask.trans { Worked.refl (b.ask r).2 with }

/-- The delayed readings that are due go on. -/
theorem worked_wake (b : Bridge) : b.Worked b.wake := by
  have hlater : b.Worked { b with delayed := (b.delayed.partition fun d => d.due ≤ b.now).2 } :=
    { Worked.refl b with }
  exact hlater.trans (Worked.foldl fun b' _ d _ => worked_resume b' d)

/-- What is spawned does not matter to the work of others. -/
theorem Worked.spawned_nil (h : b.Worked b') :
    ({ b with spawned := [] } : Bridge).Worked { b' with spawned := [] } where
  config := h.config
  now := h.now
  manager := h.manager
  registry := h.registry
  registered := h.registered
  timer := h.timer
  spawned := rfl
  sent := h.sent
  logged := h.logged

/-- **Everything that runs before the jobs of the outbox** is tasks at work; they spawn no others. -/
theorem worked_settle (b : Bridge) :
    ({ b.tick with spawned := [] } : Bridge).Worked b.tick.wake.runSpawned :=
  (worked_wake b.tick).spawned_nil.trans (Worked.foldl fun b' _ t _ => worked_run b' t)

/-! ## Custody -/

/-- The trace ids of the jobs that the log reports as answered, in order. -/
def reported (b : Bridge) : List String := Notice.reported (b.outbox.notices ++ b.notices)

/-- Jobs were sent, one for each message made, and jobs were handed to the broker and reported. -/
structure Hands (b : Bridge) (sent handed : List Job) (b' : Bridge) : Prop where
  moves : b.outbox.Moves sent handed b'.outbox
  issued : b'.pipeline.issued = b.pipeline.issued + sent.length
  traces : sent.map (·.traceId) = Stamp.traces b.pipeline.issued sent.length
  reported : b'.reported = b.reported ++ handed.map (·.traceId)

variable {sent handed more others : List Job}

/-- What leaves the pipeline and the log alone, and moves nothing. -/
theorem hands_still (hmoves : b.outbox.Moves [] [] b'.outbox) (hpipeline : b'.pipeline = b.pipeline)
    (houtbox : b'.outbox.notices = b.outbox.notices) (hnotices : b'.notices = b.notices) :
    b.Hands [] [] b' where
  moves := hmoves
  issued := congrArg Pipeline.issued hpipeline
  traces := rfl
  reported := by rw [reported, reported, houtbox, hnotices, List.map_nil, List.append_nil]

theorem Hands.trans (h : b.Hands sent handed b') (h' : b'.Hands more others b'') :
    b.Hands (sent ++ more) (handed ++ others) b'' where
  moves := h.moves.trans h'.moves
  issued := by rw [h'.issued, h.issued, List.length_append, Nat.add_assoc]
  traces := by
    rw [List.map_append, h.traces, h'.traces, h.issued, List.length_append, Stamp.traces_append]
  reported := by rw [h'.reported, h.reported, List.map_append, List.append_assoc]

/-- Working tasks send jobs and hand nothing over. -/
theorem Worked.hands (h : b.Worked b') :
    ∃ sent, b.Hands sent [] b' ∧ (.pipeline ∉ b.registry.reached → sent = []) := by
  obtain ⟨sent, houtbox, hpipeline, htraces, hnone⟩ := h.sent
  obtain ⟨notices, hnotices, hsilent⟩ := h.logged
  refine ⟨sent, ⟨?_, congrArg Pipeline.issued hpipeline, htraces, ?_⟩, hnone⟩
  · rw [houtbox]
    exact Outbox.enqueue_moves _ _
  · rw [Bridge.reported, houtbox, hnotices, Notice.reported_append, hsilent.reported_append,
      List.map_nil, List.append_nil, Bridge.reported, Notice.reported_append]
    rfl

/-- The jobs of the outbox run: some are handed over, among them all that have their permit. -/
theorem hands_runJobs (b : Bridge) : ∃ handed, b.Hands [] handed b.runJobs
    ∧ ((b.outbox.ready.filter (·.admitted)).map (·.job)).Sublist handed := by
  obtain ⟨handed, new, hmoves, hnotices, hnew, hadmitted⟩ := b.outbox.settle_moves
  refine ⟨handed, ⟨⟨hmoves.jobs, hmoves.counted, hmoves.calls⟩, rfl, rfl, ?_⟩, hadmitted⟩
  show Notice.reported (b.outbox.settle.notices ++ b.notices) = _
  rw [hnotices, List.append_assoc, Notice.reported_append, hnew]
  rfl

/-! ## Letting things run -/

/-- Something has happened that leaves the listeners as they are. -/
structure Passed (b b' : Bridge) : Prop where
  config : b'.config = b.config
  registry : b'.registry = b.registry
  registered : b'.registered = b.registered
  hands : ∃ sent handed, b.Hands sent handed b' ∧ (.pipeline ∉ b.registry.reached → sent = [])

theorem Passed.refl (b : Bridge) : b.Passed b where
  config := rfl
  registry := rfl
  registered := rfl
  hands := ⟨[], [], hands_still (Outbox.Moves.refl _) rfl rfl rfl, fun _ => rfl⟩

theorem Passed.trans (h : b.Passed b') (h' : b'.Passed b'') : b.Passed b'' where
  config := h'.config.trans h.config
  registry := h'.registry.trans h.registry
  registered := h'.registered.trans h.registered
  hands := by
    obtain ⟨sent, handed, hhands, hnone⟩ := h.hands
    obtain ⟨more, others, hmore, hnone'⟩ := h'.hands
    rw [h.registry] at hnone'
    refine ⟨sent ++ more, handed ++ others, hhands.trans hmore, fun hpipeline => ?_⟩
    rw [hnone hpipeline, hnone' hpipeline, List.append_nil]

theorem Worked.passed (h : b.Worked b') : b.Passed b' where
  config := h.config
  registry := h.registry
  registered := h.registered
  hands := by
    obtain ⟨sent, hhands, hnone⟩ := h.hands
    exact ⟨sent, [], hhands, hnone⟩

/-- The client, the clock, the timer and what is spawned do not matter. -/
theorem passed_set (b : Bridge) (client : Client) (now : Nat) (timer : Option PollTimer)
    (spawned : List ReadTask) : b.Passed { b with client, now, timer, spawned } where
  config := rfl
  registry := rfl
  registered := rfl
  hands := ⟨[], [], hands_still (Outbox.Moves.refl _) rfl rfl rfl, fun _ => rfl⟩

/-- What is done to the outbox does not matter if it moves nothing. -/
theorem passed_outbox (b : Bridge) {outbox : Outbox} (hmoves : b.outbox.Moves [] [] outbox)
    (hnotices : outbox.notices = b.outbox.notices) : b.Passed { b with outbox } where
  config := rfl
  registry := rfl
  registered := rfl
  hands := ⟨[], [], hands_still hmoves rfl hnotices rfl, fun _ => rfl⟩

theorem tick_eq (b : Bridge) : ∃ timer spawned, b.tick = { b with timer, spawned }
    ∧ timer.isSome = b.timer.isSome := by
  unfold tick
  split
  · exact ⟨b.timer, b.spawned, rfl, rfl⟩
  · rename_i timer htimer
    refine ⟨some (timer.fire b.now).2, _, rfl, ?_⟩
    rw [htimer]
    rfl

/-- **Settling** is the timer's ticks, tasks at work and the jobs of the outbox. -/
theorem settle_eq (b : Bridge) : ∃ timer b', ({ b with timer, spawned := [] } : Bridge).Worked b'
    ∧ b.settle = b'.runJobs ∧ timer.isSome = b.timer.isSome := by
  obtain ⟨timer, spawned, htick, hsome⟩ := b.tick_eq
  have hworked := worked_settle b
  refine ⟨timer, b.tick.wake.runSpawned, ?_, rfl, hsome⟩
  rw [htick] at hworked ⊢
  exact hworked

/-- Settling leaves the listeners as they are. -/
theorem passed_settle (b : Bridge) : b.Passed b.settle := by
  obtain ⟨timer, b₁, hworked, hsettle, -⟩ := b.settle_eq
  have hjobs : b₁.Passed b₁.runJobs := by
    obtain ⟨handed, hhands, -⟩ := hands_runJobs b₁
    exact ⟨rfl, rfl, rfl, [], handed, hhands, fun _ => rfl⟩
  rw [hsettle]
  exact (passed_set b b.client b.now timer []).trans (hworked.passed.trans hjobs)

/-- Settling hands over every job that has its permit. -/
theorem hands_settle (b : Bridge) : ∃ sent handed, b.Hands sent handed b.settle
    ∧ ((b.outbox.ready.filter (·.admitted)).map (·.job)).Sublist handed := by
  obtain ⟨timer, b₁, hworked, hsettle, -⟩ := b.settle_eq
  obtain ⟨sent, handed₁, hhands₁, -⟩ :=
    ((passed_set b b.client b.now timer []).trans hworked.passed).hands
  obtain ⟨handed₂, hhands₂, hadmitted⟩ := hands_runJobs b₁
  -- the jobs that the tasks have sent have no permit, so the permits are those from before
  obtain ⟨enqueued, houtbox, -, -, -⟩ := hworked.sent
  rw [houtbox, Outbox.admitted_enqueue] at hadmitted
  rw [hsettle]
  exact ⟨_, _, hhands₁.trans hhands₂, hadmitted.trans (List.sublist_append_right _ _)⟩

/-- Settling keeps the connection and the clock, and a timer that runs goes on running. -/
theorem settle_keeps (b : Bridge) : b.settle.client.manager = b.client.manager
    ∧ b.settle.now = b.now ∧ b.settle.isPolling = b.isPolling := by
  obtain ⟨timer, b₁, hworked, hsettle, hsome⟩ := b.settle_eq
  rw [hsettle]
  exact ⟨hworked.manager, hworked.now, (congrArg Option.isSome hworked.timer).trans hsome⟩

/-! ## The passing of time -/

/-- A relation that settling and the clock respect. -/
structure Steady (R : Bridge → Bridge → Prop) : Prop where
  refl : ∀ b, R b b
  trans : ∀ {b b' b''}, R b b' → R b' b'' → R b b''
  settle : ∀ b, R b b.settle
  clock : ∀ b now, R b { b with now }

variable {R : Bridge → Bridge → Prop}

/-- **Sleeping** is settling and setting the clock, in turn. -/
theorem Steady.sleepUntil (h : Steady R) (b : Bridge) (t : Nat) : R b (b.sleepUntil t) := by
  fun_induction Bridge.sleepUntil b t with
  | case1 b next hstop => exact h.trans (h.settle b) (h.clock _ _)
  | case2 b next stop hstop hlt ih => exact h.trans (h.trans (h.settle b) (h.clock _ _)) ih
  | case3 b next stop hstop hlt => exact h.trans (h.settle b) (h.clock _ _)

/-- **Flushing** is looking, settling and setting the clock, in turn. -/
theorem Steady.flushUntil (h : Steady R) (b : Bridge) (deadline : Nat) :
    R b (b.flushUntil deadline).2 := by
  fun_induction Bridge.flushUntil b deadline with
  | case1 b answer hanswer => exact h.refl b
  | case2 b hnone hlt next answer hanswer => exact h.settle b
  | case3 b hnone hlt next hnone' hstop ih => exact h.trans (h.trans (h.settle b) (h.clock _ _)) ih
  | case4 b hnone hlt next hnone' stop hstop hbefore ih =>
    exact h.trans (h.trans (h.settle b) (h.clock _ _)) ih
  | case5 b hnone hlt next hnone' stop hstop hbefore ih =>
    exact h.trans (h.trans (h.settle b) (h.clock _ _)) ih
  | case6 b hnone hlt => exact h.refl b

theorem steady_passed : Steady Passed where
  refl := Passed.refl
  trans := Passed.trans
  settle := passed_settle
  clock := fun b now => passed_set b b.client now b.timer b.spawned

/-- The connection stays as it is, and polling goes on or does not. -/
theorem steady_source : Steady fun b b' =>
    b'.client.manager = b.client.manager ∧ b'.isPolling = b.isPolling where
  refl := fun _ => ⟨rfl, rfl⟩
  trans := fun h h' => ⟨h'.1.trans h.1, h'.2.trans h.2⟩
  settle := fun b => ⟨(settle_keeps b).1, (settle_keeps b).2.2⟩
  clock := fun _ _ => ⟨rfl, rfl⟩

/-! ## Calls to the server -/

/-- A step of the client logs no reports. -/
theorem passed_withClient (b : Bridge) {step : List Notice × Client} (h : Silent step.1) :
    b.Passed (b.withClient step) :=
  (passed_set b step.2 b.now b.timer b.spawned).trans (worked_log _ h).passed

theorem passed_connect (b : Bridge) (url : String) : b.Passed (b.connect url).2 :=
  passed_withClient b (Client.silent_connect b.client url)

theorem passed_disconnect (b : Bridge) : b.Passed b.disconnect :=
  passed_withClient b (Client.silent_disconnect b.client)

theorem passed_advance (b : Bridge) (calls : List MonitorCall) : b.Passed (b.advance calls).2 :=
  passed_withClient b (Client.silent_advanceAll b.client b.now calls)

/-- Monitor calls wait by sleeping. -/
theorem passed_await (rounds : Nat) (b : Bridge) (calls : List MonitorCall) :
    b.Passed (b.await rounds calls) := by
  induction rounds generalizing b calls with
  | zero => exact Passed.refl b
  | succ rounds ih =>
    have hadvance := passed_advance b calls
    rw [await]
    dsimp only
    split
    · exact hadvance
    · split
      · exact hadvance.trans ((steady_passed.sleepUntil _ _).trans (ih _ _))
      · exact hadvance.trans (ih _ _)

theorem passed_startPolling (b : Bridge) (nodes : List String) (period : Nat) :
    b.Passed (b.startPolling nodes period) := by
  refine (passed_set b b.client b.now _ b.spawned).trans (worked_log _ ?_).passed
  split
  · simp [Notice.traceId?]
  · exact Notice.silent_nil

end Bridge

end FieldBridge
