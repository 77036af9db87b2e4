/-
  What becomes of the jobs of an outbox.

  1. **Jobs** — from the moment a message is sent its job is under way (`Outbox.jobs`), spawned or held
     back by the gate, until it is handed to the broker.

  2. **Moves** — between two states of an outbox some jobs were sent and some were handed over.  The jobs
     under way before and those sent are, each as often as it occurs, those handed over and those still
     under way; and the broker was called for the records of the jobs handed over, in order, and for no
     other (`Outbox.Moves`).  Moves can be put one behind another (`Moves.trans`).

  3. **Letting jobs run** is such a move, which logs one report for each job handed over; every job that
     has its permit is handed over (`settle_moves`).
-/

import FieldBridge.Proofs.Broker.History
import FieldBridge.Proofs.Notice
import FieldBridge.Proofs.Sink.Refinement

namespace FieldBridge

/-- The record that a call sends. -/
def BrokerCall.record? : BrokerCall → Option Record
  | .send r => some r
  | _ => none

/-- The records sent, oldest first. -/
def BrokerHistory.sends (h : BrokerHistory) : List Record := h.filterMap BrokerCall.record?

theorem MemoryBroker.run_append (b : MemoryBroker) (h more : BrokerHistory) :
    b.run (h ++ more) = (b.run h).run more :=
  List.foldl_append

/-- Without a send no record changes. -/
theorem MemoryBroker.records_run (b : MemoryBroker) {calls : BrokerHistory} (h : calls.sends = [])
    (name : String) : (b.run calls).records name = b.records name := by
  induction calls generalizing b with
  | nil => rfl
  | cons call rest ih =>
    cases call with
    | ensure t => exact (ih (b.ensure t) h).trans (b.records_ensure t name)
    | send r => exact absurd h (by simp [BrokerHistory.sends, BrokerCall.record?])
    | setFailing on => exact ih (b.setFailing on) h

namespace Outbox

/-- The jobs under way: the spawned ones and those that the gate holds back. -/
def jobs (o : Outbox) : List Job := o.ready.map (·.job) ++ o.gate.waiting

/-- The counter says how many jobs are under way. -/
def Counted (o : Outbox) : Prop := o.inFlight = o.jobs.length

/-- From one state of an outbox to another jobs were sent, and jobs were handed to the broker. -/
structure Moves (o : Outbox) (sent handed : List Job) (o' : Outbox) : Prop where
  /-- No job is lost and none is there twice. -/
  jobs : (o.jobs ++ sent).Perm (handed ++ o'.jobs)
  counted : o.Counted → o'.Counted
  /-- The broker gets the records of the jobs handed over and no other. -/
  calls : ∃ calls : BrokerHistory,
    o'.gate.broker = o.gate.broker.run calls ∧ calls.sends = handed.map (·.record)

variable {o o' o'' : Outbox} {sent handed more others : List Job}

theorem Moves.refl (o : Outbox) : o.Moves [] [] o where
  jobs := by rw [List.append_nil, List.nil_append]
  counted := id
  calls := ⟨[], rfl, rfl⟩

/-- Moves one behind another are one move. -/
theorem Moves.trans (h : o.Moves sent handed o') (h' : o'.Moves more others o'') :
    o.Moves (sent ++ more) (handed ++ others) o'' where
  jobs := by
    have hfirst := h.jobs.append_right more
    have hsecond := h'.jobs.append_left handed
    rw [List.append_assoc] at hfirst
    rw [List.append_assoc] at hfirst
    rw [← List.append_assoc handed others] at hsecond
    exact hfirst.trans hsecond
  counted := fun hcounted => h'.counted (h.counted hcounted)
  calls := by
    obtain ⟨first, hfirst, hsends⟩ := h.calls
    obtain ⟨second, hsecond, hmore⟩ := h'.calls
    refine ⟨first ++ second, ?_, ?_⟩
    · rw [hsecond, hfirst, MemoryBroker.run_append]
    · rw [BrokerHistory.sends, List.filterMap_append, List.map_append]
      exact congrArg₂ (· ++ ·) hsends hmore

/-- Where nothing was handed over no record has changed. -/
theorem Moves.records (h : o.Moves sent [] o') (name : String) :
    o'.gate.broker.records name = o.gate.broker.records name := by
  obtain ⟨calls, hcalls, hsends⟩ := h.calls
  rw [hcalls]
  exact MemoryBroker.records_run _ hsends name

/-- Where nothing is under way and nothing is sent nothing is handed over. -/
theorem Moves.none (h : o.Moves [] handed o') (hjobs : o.jobs = []) : handed = [] ∧ o'.jobs = [] := by
  have hlength := h.jobs.length_eq
  rw [hjobs, List.length_append, List.length_append, List.length_nil] at hlength
  exact ⟨List.eq_nil_of_length_eq_zero (by omega), List.eq_nil_of_length_eq_zero (by omega)⟩

/-! ## Sending -/

/-- Jobs are sent. -/
def enqueue (o : Outbox) (sent : List Job) : Outbox :=
  { o with
    sink := { o.sink with inFlight := ⟨o.sink.inFlight.count + sent.length⟩ }
    ready := o.ready ++ sent.map fun j => ⟨j, false⟩ }

/-- A message sent is a job sent. -/
theorem send_eq (o : Outbox) (m : Message) : o.send m = o.enqueue [o.sink.job m] := rfl

theorem enqueue_nil (o : Outbox) : o.enqueue [] = o := by
  simp [enqueue]

theorem enqueue_enqueue (o : Outbox) (sent more : List Job) :
    (o.enqueue sent).enqueue more = o.enqueue (sent ++ more) := by
  simp [enqueue, Nat.add_assoc]

/-- A job sent has no permit yet. -/
theorem admitted_enqueue (o : Outbox) (sent : List Job) :
    (o.enqueue sent).ready.filter (·.admitted) = o.ready.filter (·.admitted) := by
  have hnone : (sent.map fun j => (⟨j, false⟩ : ReadyJob)).filter (·.admitted) = [] := by
    rw [List.filter_eq_nil_iff]
    intro r hr
    obtain ⟨j, -, rfl⟩ := List.mem_map.1 hr
    exact Bool.false_ne_true
  show (o.ready ++ sent.map fun j => (⟨j, false⟩ : ReadyJob)).filter (·.admitted) = _
  rw [List.filter_append, hnone, List.append_nil]

/-- **Sending** jobs puts them under way. -/
theorem enqueue_moves (o : Outbox) (sent : List Job) : o.Moves sent [] (o.enqueue sent) where
  jobs := by
    have hsent : (sent.map fun j => (⟨j, false⟩ : ReadyJob)).map (·.job) = sent := by
      rw [List.map_map]
      exact List.map_id _
    show (o.ready.map (·.job) ++ o.gate.waiting ++ sent).Perm
      ((o.ready ++ sent.map fun j => (⟨j, false⟩ : ReadyJob)).map (·.job) ++ o.gate.waiting)
    rw [List.map_append, hsent, List.append_assoc, List.append_assoc]
    exact List.perm_append_comm.append_left _
  counted := by
    intro hcounted
    show o.sink.inFlight.count + sent.length = _
    have hcount : o.sink.inFlight.count = o.jobs.length := hcounted
    rw [hcount]
    simp only [Outbox.jobs, enqueue, List.map_append, List.length_append, List.length_map]
    omega
  calls := ⟨[], rfl, rfl⟩

/-! ## Letting jobs run -/

/-- The report about a job names it. -/
theorem traceId?_outcome (j : Job) (answer : Except BrokerError Receipt) :
    (Sink.outcome j answer).traceId? = some j.traceId := by
  cases answer with
  | ok receipt => rfl
  | error e => rfl

/-- Running a job hands it over, and reports it once, or moves nothing; one that has its permit is handed
over. -/
theorem run_moves (o : Outbox) (r : ReadyJob) (rest : List ReadyJob) : ∃ handed new,
    ({ o with ready := r :: (rest ++ o.ready) } : Outbox).Moves [] handed
      { o.run r with ready := rest ++ (o.run r).ready }
    ∧ (o.run r).notices = new ++ o.notices ∧ Notice.reported new = handed.map (·.traceId)
    ∧ (([r].filter (·.admitted)).map (·.job)).Sublist handed := by
  rcases run_cases o r with ⟨gate, hwaiting, hbroker, hrun⟩ | ⟨hheld, hrun⟩
  · -- it is handed over
    rw [hrun]
    refine ⟨[r.job], [Sink.outcome r.job (gate.send r.job).1], ⟨?_, ?_, [.send r.job.record], ?_, rfl⟩,
      rfl, ?_, ?_⟩
    · show (r.job :: (rest ++ o.ready).map ReadyJob.job ++ o.gate.waiting ++ []).Perm
        ([r.job] ++ ((rest ++ o.ready).map ReadyJob.job ++ gate.waiting))
      rw [List.append_nil, hwaiting]
      exact List.Perm.refl _
    · intro hcounted
      have hcount : o.sink.inFlight.count
          = (r.job :: (rest ++ o.ready).map ReadyJob.job ++ o.gate.waiting).length := hcounted
      show o.sink.inFlight.count - 1 = ((rest ++ o.ready).map ReadyJob.job ++ gate.waiting).length
      rw [hcount, hwaiting]
      rfl
    · show (gate.broker.send r.job.record).2 = (o.gate.broker.send r.job.record).2
      rw [hbroker]
    · show [Sink.outcome r.job (gate.send r.job).1].filterMap Notice.traceId? = _
      rw [List.filterMap_cons, traceId?_outcome]
      rfl
    · exact List.filter_sublist.map ReadyJob.job
  · -- the gate holds it back
    rw [hrun]
    have hperm : (r.job :: (rest ++ o.ready).map ReadyJob.job ++ o.gate.waiting).Perm
        ((rest ++ o.ready).map ReadyJob.job ++ (o.gate.waiting ++ [r.job])) := by
      rw [← List.append_assoc]
      exact (List.perm_append_singleton _ _).symm
    refine ⟨[], [], ⟨?_, fun hcounted => ?_, [], rfl, rfl⟩, rfl, rfl, ?_⟩
    · show (_ ++ []).Perm ([] ++ _)
      rw [List.append_nil, List.nil_append]
      exact hperm
    · exact Eq.trans hcounted hperm.length_eq
    · rw [List.filter_cons_of_neg (by rw [hheld]; decide)]
      exact List.Sublist.refl _

/-- Jobs run one after another. -/
theorem runAll_moves (jobs : List ReadyJob) (o : Outbox) : ∃ handed new,
    ({ o with ready := jobs ++ o.ready } : Outbox).Moves [] handed (jobs.foldl Outbox.run o)
    ∧ (jobs.foldl Outbox.run o).notices = new ++ o.notices
    ∧ Notice.reported new = handed.map (·.traceId)
    ∧ ((jobs.filter (·.admitted)).map (·.job)).Sublist handed := by
  induction jobs generalizing o with
  | nil => exact ⟨[], [], Moves.refl o, rfl, rfl, List.Sublist.refl _⟩
  | cons r rest ih =>
    obtain ⟨first, new, hfirst, hnotices, hreported, hadmitted⟩ := run_moves o r rest
    obtain ⟨handed, more, hmoves, hmore, hothers, hsublist⟩ := ih (o.run r)
    refine ⟨first ++ handed, more ++ new, hfirst.trans hmoves, ?_, ?_, ?_⟩
    · rw [List.foldl_cons, hmore, hnotices, List.append_assoc]
    · rw [Notice.reported_append, hreported, hothers, List.map_append]
    · rw [← List.singleton_append, List.filter_append, List.map_append]
      exact hadmitted.append hsublist

/-- **Letting every job run** hands some jobs over, among them those that have their permit, and reports
each of them once. -/
theorem settle_moves (o : Outbox) : ∃ handed new, o.Moves [] handed o.settle
    ∧ o.settle.notices = new ++ o.notices ∧ Notice.reported new = handed.map (·.traceId)
    ∧ ((o.ready.filter (·.admitted)).map (·.job)).Sublist handed := by
  obtain ⟨handed, new, hmoves, hrest⟩ := runAll_moves o.ready { o with ready := [] }
  refine ⟨handed, new, ?_, hrest⟩
  rw [show ({ o with ready := o.ready ++ [] } : Outbox) = o by rw [List.append_nil]] at hmoves
  exact hmoves

/-! ## The gate and the broker -/

/-- A gate that holds back the same jobs, before a broker that took no record meanwhile, moves nothing. -/
theorem gate_moves (o : Outbox) (gate : GatedBroker) (hwaiting : gate.waiting = o.gate.waiting)
    (calls : BrokerHistory) (hbroker : gate.broker = o.gate.broker.run calls)
    (hsends : calls.sends = []) : o.Moves [] [] { o with gate } := by
  have hjobs : ({ o with gate } : Outbox).jobs = o.jobs := by
    rw [Outbox.jobs, Outbox.jobs, hwaiting]
  refine ⟨?_, fun hcounted => ?_, calls, hbroker, hsends⟩
  · rw [hjobs, List.append_nil, List.nil_append]
  · rw [Counted, hjobs]
    exact hcounted

/-- **Handing out permits** moves nothing: the jobs that get one are ready again. -/
theorem permit_moves (o : Outbox) (n : Nat) : o.Moves [] [] (o.permit n) := by
  have hperm : o.jobs.Perm (o.permit n).jobs := by
    let k := min n o.gate.waiting.length
    have hjobs : (((o.gate.waiting.take k).map fun j => (⟨j, true⟩ : ReadyJob)).map (·.job))
        = o.gate.waiting.take k := by
      rw [List.map_map]
      exact List.map_id _
    show (o.ready.map (·.job) ++ o.gate.waiting).Perm
      ((o.ready ++ (o.gate.waiting.take k).map fun j => (⟨j, true⟩ : ReadyJob)).map (·.job)
        ++ o.gate.waiting.drop k)
    rw [List.map_append, hjobs, List.append_assoc, List.take_append_drop]
  refine ⟨?_, fun hcounted => ?_, [], rfl, rfl⟩
  · rw [List.append_nil, List.nil_append]
    exact hperm
  · exact Eq.trans hcounted hperm.length_eq

/-- The first jobs that the gate holds back have their permits then. -/
theorem admitted_permit (o : Outbox) (n : Nat) :
    (o.gate.waiting.take n).Sublist (((o.permit n).ready.filter (·.admitted)).map (·.job)) := by
  have htake : o.gate.waiting.take (min n o.gate.waiting.length) = o.gate.waiting.take n := by
    rw [← List.take_take, List.take_length]
  have hready : (o.permit n).ready
      = o.ready ++ (o.gate.waiting.take n).map fun j => (⟨j, true⟩ : ReadyJob) := by
    show o.ready ++ (o.gate.waiting.take (min n o.gate.waiting.length)).map _ = _
    rw [htake]
  have hnew : (((o.gate.waiting.take n).map fun j => (⟨j, true⟩ : ReadyJob)).filter
      (·.admitted)).map (·.job) = o.gate.waiting.take n := by
    rw [List.filter_map, List.map_map]
    exact (List.map_id _).trans (List.filter_eq_self.2 fun _ _ => rfl)
  rw [hready, List.filter_append, List.map_append, hnew]
  exact List.sublist_append_right _ _

end Outbox

end FieldBridge
