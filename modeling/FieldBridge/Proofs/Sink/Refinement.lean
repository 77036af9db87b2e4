/-
  An outbox is a sink at work.

  An outbox runs its jobs in order and has a broker that answers at once, behind a gate.  So whatever it
  does is something that a sink can do (`Follows`): a job that is ready, or that the gate holds back, is
  one that has not run, and handing a job to the broker is its run and its answer in one go.  What is
  said of every run of a sink holds of outboxes therefore (`follows_run`).
-/

import FieldBridge.Proofs.Sink.Publishing
import FieldBridge.Sink.Outbox

namespace FieldBridge

namespace Outbox

/-- What can be done to an outbox. -/
inductive Operation where
  | send (m : Message)
  /-- Every job that is ready runs. -/
  | settle
  /-- The gate hands out permits. -/
  | permit (n : Nat)

/-- One operation. -/
def operate (o : Outbox) : Operation → Outbox
  | .send m => o.send m
  | .settle => o.settle
  | .permit n => o.permit n

/-- A state of an outbox, with jobs that it has still to run, goes with one of a sink at work. -/
structure Follows (o : Outbox) (rest : List ReadyJob) (p : Publishing) : Prop where
  sink : p.sink = o.sink
  /-- The jobs that have not run. -/
  spawned : (p.spawned.map (·.2)).Perm ((rest ++ o.ready).map (·.job) ++ o.gate.waiting)
  calling : p.calling = []

variable {o : Outbox} {p : Publishing} {rest : List ReadyJob}

/-- A job that has not run can run and be answered. -/
theorem exists_answered {j : Job} {others : List Job} (hcalling : p.calling = [])
    (hspawned : (p.spawned.map (·.2)).Perm (j :: others)) (answer : Except BrokerError Receipt) :
    ∃ events, (p.run events).sink = (p.sink.complete j answer).2 ∧ (p.run events).calling = []
      ∧ ((p.run events).spawned.map (·.2)).Perm others := by
  obtain ⟨x, hx, rfl⟩ := List.mem_map.1 (hspawned.mem_iff.2 List.mem_cons_self)
  obtain ⟨place, hlt, hget⟩ := List.getElem_of_mem hx
  have hplace : p.spawned[place]? = some (x.1, x.2) := List.getElem?_eq_some_iff.2 ⟨hlt, hget⟩
  have hperm := perm_eraseIdx hplace
  have hrun : p.step (.run place) = { p with
      spawned := p.spawned.eraseIdx place
      calling := [(x.1, x.2)]
      history := p.history ++ [.called x.1 x.2.record] } := by
    simp only [Publishing.step, hplace, hcalling, List.nil_append]
  refine ⟨[.run place, .answer 0 answer], ?_⟩
  rw [Publishing.run, List.foldl_cons, hrun, List.foldl_cons, List.foldl_nil]
  refine ⟨rfl, rfl, ?_⟩
  exact ((hperm.map (·.2)).symm.trans hspawned).cons_inv

/-- A message sent to an outbox is sent to its sink. -/
theorem Follows.send (h : o.Follows [] p) (m : Message) :
    (o.send m).Follows [] (p.step (.send m)) where
  sink := by
    show (p.sink.send m).2 = (o.sink.send m).2
    rw [h.sink]
  spawned := by
    have hjob : (p.sink.send m).1 = (o.sink.send m).1 := by rw [h.sink]
    show ((p.spawned ++ [(p.history.length, (p.sink.send m).1)]).map (·.2)).Perm
      ((o.ready ++ [(⟨(o.sink.send m).1, false⟩ : ReadyJob)]).map (·.job) ++ o.gate.waiting)
    rw [List.map_append, List.map_append, List.append_assoc, hjob]
    -- the new job stands in front of those that the gate holds back
    refine (h.spawned.append_right _).trans ?_
    rw [List.nil_append, List.append_assoc]
    exact List.perm_append_comm.append_left _
  calling := h.calling

/-- A job passes the gate, which keeps nothing of it, or is the last that the gate holds back. -/
theorem arrive_cases (g : GatedBroker) (j : Job) :
    ((g.arrive j).1 = true ∧ (g.arrive j).2.waiting = g.waiting ∧ (g.arrive j).2.broker = g.broker)
      ∨ g.arrive j = (false, { g with waiting := g.waiting ++ [j] }) := by
  unfold GatedBroker.arrive
  split
  · exact Or.inl ⟨rfl, rfl, rfl⟩
  · split
    · exact Or.inr rfl
    · exact Or.inl ⟨rfl, rfl, rfl⟩

/-- What running a job comes to: it is handed to the broker, or the gate holds it back, unless it has its
permit. -/
theorem run_cases (o : Outbox) (r : ReadyJob) :
    (∃ gate : GatedBroker, gate.waiting = o.gate.waiting ∧ gate.broker = o.gate.broker
      ∧ o.run r = ({ o with gate } : Outbox).deliver r.job)
    ∨ r.admitted = false
      ∧ o.run r = { o with gate := { o.gate with waiting := o.gate.waiting ++ [r.job] } } := by
  cases hadmitted : r.admitted with
  | true => exact Or.inl ⟨o.gate, rfl, rfl, by simp [Outbox.run, hadmitted]⟩
  | false =>
    rcases arrive_cases o.gate r.job with ⟨hpasses, hwaiting, hbroker⟩ | hheld
    · exact Or.inl ⟨(o.gate.arrive r.job).2, hwaiting, hbroker,
        by simp [Outbox.run, hadmitted, hpasses]⟩
    · exact Or.inr ⟨rfl, by simp [Outbox.run, hadmitted, hheld]⟩

/-- The next job runs. -/
theorem Follows.run {r : ReadyJob} (h : o.Follows (r :: rest) p) :
    ∃ events, (o.run r).Follows rest (p.run events) := by
  have hspawned : (p.spawned.map (·.2)).Perm
      (r.job :: ((rest ++ o.ready).map (·.job) ++ o.gate.waiting)) := h.spawned
  rcases run_cases o r with ⟨gate, hwaiting, -, hrun⟩ | ⟨-, hheld⟩
  · obtain ⟨events, hsink, hcalling, hothers⟩ :=
      exists_answered h.calling hspawned (gate.send r.job).1
    rw [hrun]
    refine ⟨events, ?_, ?_, hcalling⟩
    · rw [hsink, h.sink]
      rfl
    · show ((p.run events).spawned.map (·.2)).Perm ((rest ++ o.ready).map (·.job) ++ gate.waiting)
      rw [hwaiting]
      exact hothers
  · -- the sink has done nothing yet
    rw [hheld]
    refine ⟨[], h.sink, ?_, h.calling⟩
    refine hspawned.trans ?_
    show (r.job :: _).Perm (_ ++ (o.gate.waiting ++ [r.job]))
    rw [← List.append_assoc]
    exact (List.perm_append_singleton _ _).symm

/-- Jobs run, one after another. -/
theorem Follows.runAll {jobs : List ReadyJob} (h : o.Follows jobs p) :
    ∃ events, (jobs.foldl Outbox.run o).Follows [] (p.run events) := by
  induction jobs generalizing o p with
  | nil => exact ⟨[], h⟩
  | cons r rest ih =>
    obtain ⟨events, hnext⟩ := h.run
    obtain ⟨more, hend⟩ := ih hnext
    refine ⟨events ++ more, ?_⟩
    rw [Publishing.run, List.foldl_append]
    exact hend

/-- Every job that is ready runs. -/
theorem Follows.settle (h : o.Follows [] p) : ∃ events, o.settle.Follows [] (p.run events) := by
  have hready : ({ o with ready := [] } : Outbox).Follows o.ready p := by
    refine ⟨h.sink, ?_, h.calling⟩
    rw [List.append_nil]
    exact h.spawned
  exact hready.runAll

/-- Handing out permits runs nothing. -/
theorem Follows.permit (h : o.Follows [] p) (n : Nat) : (o.permit n).Follows [] p where
  sink := h.sink
  spawned := by
    let k := min n o.gate.waiting.length
    show (p.spawned.map (·.2)).Perm ((o.ready ++ (o.gate.waiting.take k).map fun j =>
      (⟨j, true⟩ : ReadyJob)).map (·.job) ++ o.gate.waiting.drop k)
    have hjobs : (((o.gate.waiting.take k).map fun j => (⟨j, true⟩ : ReadyJob)).map (·.job))
        = o.gate.waiting.take k := by
      rw [List.map_map]
      exact List.map_id _
    rw [List.map_append, hjobs, List.append_assoc, List.take_append_drop]
    exact h.spawned
  calling := h.calling

/-- **Step**: whatever is done to an outbox, a sink can do. -/
theorem Follows.operate (h : o.Follows [] p) (operation : Operation) :
    ∃ events, (o.operate operation).Follows [] (p.run events) := by
  cases operation with
  | send m => exact ⟨[.send m], h.send m⟩
  | settle => exact h.settle
  | permit n => exact ⟨[], h.permit n⟩

/-- **Run** of an outbox. -/
theorem Follows.operateAll (h : o.Follows [] p) (operations : List Operation) :
    ∃ events, (operations.foldl Outbox.operate o).Follows [] (p.run events) := by
  induction operations generalizing o p with
  | nil => exact ⟨[], h⟩
  | cons operation rest ih =>
    obtain ⟨events, hnext⟩ := h.operate operation
    obtain ⟨more, hend⟩ := ih hnext
    refine ⟨events ++ more, ?_⟩
    rw [Publishing.run, List.foldl_append]
    exact hend

/-- A flush that is not made to wait finds every send answered. -/
theorem Follows.quiet {s : Sink} (h : o.Follows [] p) (hjobs : Jobs s p)
    (hflush : o.tryFlush.isSome = true) : Quiet p.history := by
  refine hjobs.quiet ?_
  rw [h.sink]
  unfold tryFlush at hflush
  split at hflush
  · assumption
  · exact absurd hflush (by simp)

/-- **Refinement**: whatever is done to a new outbox with any broker behind any gate, a sink could have done
it; so its sink neither loses nor repeats a message, and a flush that is answered finds every message sent
before answered. -/
theorem follows_run (topic : Topic) (format : Format) (broker : MemoryBroker)
    (closed failEnsure failFlush stallFlush : Bool) (operations : List Operation) :
    let s : Sink := { topic, format }
    let gate : GatedBroker := { broker, closed, failEnsure, failFlush, stallFlush }
    let o := operations.foldl operate { sink := s, gate }
    ∃ events, o.Follows [] (({ sink := s } : Publishing).run events)
      ∧ Publishing.Sound s (({ sink := s } : Publishing).run events)
      ∧ (o.tryFlush.isSome = true → Quiet (({ sink := s } : Publishing).run events).history) := by
  intro s gate o
  have hnew : ({ sink := s, gate } : Outbox).Follows [] { sink := s } := ⟨rfl, List.Perm.refl _, rfl⟩
  obtain ⟨events, h⟩ := hnew.operateAll operations
  have hinv : Publishing.Inv s (({ sink := s } : Publishing).run events) :=
    Publishing.inv_run (Publishing.inv_start s rfl) events
  exact ⟨events, h, hinv.sound, h.quiet hinv.jobs⟩

end Outbox

end FieldBridge
