/-
  A sink at work.

  1. **Events** — messages are sent and flushes begin at any time; spawned jobs reach the broker in any
     order, the broker answers them in any order and with anything, and so it does with flushes.  A flush
     that waits may look at any time.  Nothing is assumed of the broker.

  2. **History** — what has happened, the oldest first.  A send or a flush is named by its place in the
     history, so that before and after are comparisons of places.

  3. **Books** (`Inv`) — every send is in one of three stages: its job is spawned, the broker has the
     record, or the broker has answered; jobs in flight are those of the first two stages.

  4. **Soundness** (`sound_run`) — the counter is the sends less the answers; each send leads to one call
     of the broker with the record of its message and to one notice about one answer; a flush reaches the
     broker only when everything sent before has been answered.
-/

import Mathlib.Data.List.Perm.Basic
import FieldBridge.Sink.Publish

namespace FieldBridge

/-- The job of a message. -/
def Sink.job (s : Sink) (m : Message) : Job := (s.send m).1

/-- What stands at a place, and the rest. -/
theorem perm_eraseIdx {α : Type} {l : List α} {x : α} {place : Nat} (h : l[place]? = some x) :
    l.Perm (x :: l.eraseIdx place) := by
  obtain ⟨hlt, rfl⟩ := List.getElem?_eq_some_iff.1 h
  exact (List.getElem_cons_eraseIdx_perm hlt).symm

/-! ## Events -/

/-- What has happened. -/
inductive Mark where
  | sent (m : Message)
  /-- The broker was called with a record. -/
  | called (send : Nat) (record : Record)
  /-- The broker has answered, and a notice was logged. -/
  | answered (send : Nat) (answer : Except BrokerError Receipt) (notice : Notice)
  | flushBegun
  /-- A flush has reached the broker. -/
  | flushReached (flush : Nat)
  | flushEnded (flush : Nat) (answer : Except SinkError Unit)

/-- A sink and what is under way. -/
structure Publishing where
  sink : Sink
  /-- The jobs that have not run, each with its send. -/
  spawned : List (Nat × Job) := []
  /-- The jobs that the broker has not answered. -/
  calling : List (Nat × Job) := []
  /-- The flushes that wait until nothing is in flight. -/
  waiting : List Nat := []
  /-- The flushes that the broker has not answered. -/
  flushing : List Nat := []
  history : List Mark := []

/-- What can happen. -/
inductive Publishing.Event where
  | send (m : Message)
  /-- The spawned job at this place runs. -/
  | run (place : Nat)
  /-- The broker answers the job at this place. -/
  | answer (place : Nat) (answer : Except BrokerError Receipt)
  | flush
  /-- The waiting flush at this place looks. -/
  | look (place : Nat)
  /-- The broker answers the flush at this place. -/
  | answerFlush (place : Nat) (answer : Except BrokerError Unit)

namespace Publishing

/-- One event. -/
def step (p : Publishing) : Event → Publishing
  | .send m =>
    let (job, sink) := p.sink.send m
    { p with
      sink
      spawned := p.spawned ++ [(p.history.length, job)]
      history := p.history ++ [.sent m] }
  | .run place => match p.spawned[place]? with
    | none => p
    | some (send, job) => { p with
      spawned := p.spawned.eraseIdx place
      calling := p.calling ++ [(send, job)]
      history := p.history ++ [.called send job.record] }
  | .answer place answer => match p.calling[place]? with
    | none => p
    | some (send, job) =>
      let (notice, sink) := p.sink.complete job answer
      { p with
        sink
        calling := p.calling.eraseIdx place
        history := p.history ++ [.answered send answer notice] }
  | .flush => { p with
      waiting := p.waiting ++ [p.history.length]
      history := p.history ++ [.flushBegun] }
  | .look place => match p.waiting[place]? with
    | none => p
    | some flush =>
      if p.sink.mayFlush then { p with
        waiting := p.waiting.eraseIdx place
        flushing := p.flushing ++ [flush]
        history := p.history ++ [.flushReached flush] }
      else p
  | .answerFlush place answer => match p.flushing[place]? with
    | none => p
    | some flush => { p with
      flushing := p.flushing.eraseIdx place
      history := p.history ++ [.flushEnded flush (Sink.flushed answer)] }

/-- A run. -/
def run (p : Publishing) (events : List Event) : Publishing := events.foldl step p

end Publishing

/-! ## Reading a history -/

namespace Mark

/-- The number of sends. -/
def sends (history : List Mark) : Nat :=
  history.countP fun
    | .sent _ => true
    | _ => false

/-- The number of sends that the broker has answered. -/
def answers (history : List Mark) : Nat :=
  history.countP fun
    | .answered _ _ _ => true
    | _ => false

/-- The records that the broker was called with for a send. -/
def callsOf (send : Nat) (history : List Mark) : List Record :=
  history.filterMap fun
    | .called other record => if other = send then some record else none
    | _ => none

/-- The answers to a send, each with what was logged. -/
def answersOf (send : Nat) (history : List Mark) : List (Except BrokerError Receipt × Notice) :=
  history.filterMap fun
    | .answered other answer notice => if other = send then some (answer, notice) else none
    | _ => none

variable {history : List Mark}

theorem callsOf_append (send : Nat) (history more : List Mark) :
    callsOf send (history ++ more) = callsOf send history ++ callsOf send more :=
  List.filterMap_append

theorem answersOf_append (send : Nat) (history more : List Mark) :
    answersOf send (history ++ more) = answersOf send history ++ answersOf send more :=
  List.filterMap_append

/-- A mark of a history that has grown by one is an old one or the new one. -/
theorem getElem?_snoc {x mark : Mark} {i : Nat} (h : (history ++ [mark])[i]? = some x) :
    history[i]? = some x ∨ i = history.length ∧ x = mark := by
  rw [List.getElem?_append] at h
  split at h
  · exact Or.inl h
  · rename_i hge
    rw [List.getElem?_singleton] at h
    split at h
    · exact Or.inr ⟨by omega, (Option.some.inj h).symm⟩
    · exact absurd h (by simp)

/-- What has happened stays. -/
theorem getElem?_grown {x : Mark} {i : Nat} (h : history[i]? = some x) (more : List Mark) :
    (history ++ more)[i]? = some x := by
  have hlt := (List.getElem?_eq_some_iff.1 h).1
  rw [List.getElem?_append_left hlt]
  exact h

end Mark

/-! ## The books -/

open Mark (sends answers callsOf answersOf getElem?_snoc getElem?_grown)

/-- The stage of a send: its job is spawned, the broker has the record, or the broker has answered. -/
inductive Stage (s : Sink) (p : Publishing) (send : Nat) (m : Message) : Prop where
  | spawned (hmem : (send, s.job m) ∈ p.spawned) (hcalls : callsOf send p.history = [])
    (hanswers : answersOf send p.history = [])
  | calling (hmem : (send, s.job m) ∈ p.calling) (hcalls : callsOf send p.history = [s.record m])
    (hanswers : answersOf send p.history = [])
  | answered (hgone : send ∉ (p.spawned ++ p.calling).map (·.1))
    (hcalls : callsOf send p.history = [s.record m]) (answer : Except BrokerError Receipt)
    (hanswers : answersOf send p.history = [(answer, Sink.outcome (s.job m) answer)])

/-- Everything sent so far has been answered. -/
structure Quiet (history : List Mark) : Prop where
  balance : answers history = sends history
  answered : ∀ k m, history[k]? = some (.sent m) → answersOf k history ≠ []

/-- The invariant of the jobs of a sink that began as `s`. -/
structure Jobs (s : Sink) (p : Publishing) : Prop where
  topic : p.sink.topic = s.topic
  format : p.sink.format = s.format
  count : p.sink.inFlight.count = p.spawned.length + p.calling.length
  balance : p.sink.inFlight.count + answers p.history = sends p.history
  jobs : ∀ x ∈ p.spawned ++ p.calling, ∃ m, p.history[x.1]? = some (.sent m) ∧ x.2 = s.job m
  nodup : ((p.spawned ++ p.calling).map (·.1)).Nodup
  stages : ∀ k m, p.history[k]? = some (.sent m) → Stage s p k m
  strays : ∀ k, (∀ m, p.history[k]? ≠ some (.sent m)) →
    callsOf k p.history = [] ∧ answersOf k p.history = []

/-- The invariant of the flushes: one that has reached the broker did so when everything sent before had
been answered. -/
structure Flushes (p : Publishing) : Prop where
  waiting : ∀ f ∈ p.waiting, p.history[f]? = some .flushBegun
  flushing : ∀ f ∈ p.flushing, ∃ r : Nat, p.history[r]? = some (.flushReached f)
  reached : ∀ r f : Nat, p.history[r]? = some (.flushReached f) →
    f < r ∧ p.history[f]? = some .flushBegun ∧ Quiet (p.history.take r)
  ended : ∀ (i f : Nat) (answer : Except SinkError Unit),
    p.history[i]? = some (.flushEnded f answer) → ∃ r < i, p.history[r]? = some (.flushReached f)

variable {s : Sink} {p : Publishing}

/-- A sink that keeps its settings makes the same jobs. -/
theorem Jobs.job_eq (h : Jobs s p) (m : Message) : p.sink.job m = s.job m := by
  simp only [Sink.job, Sink.send, Sink.record, h.topic, h.format]

/-- When nothing is in flight, everything sent has been answered. -/
theorem Jobs.quiet (h : Jobs s p) (hidle : p.sink.mayFlush = true) : Quiet p.history := by
  have hzero : p.sink.inFlight.count = 0 := by
    simpa [Sink.mayFlush, InFlight.isIdle] using hidle
  have hcount := h.count
  have hspawned : p.spawned = [] := List.eq_nil_of_length_eq_zero (by omega)
  have hcalling : p.calling = [] := List.eq_nil_of_length_eq_zero (by omega)
  refine ⟨by have hbalance := h.balance; omega, fun k m hk => ?_⟩
  rcases h.stages k m hk with ⟨hmem, -, -⟩ | ⟨hmem, -, -⟩ | ⟨-, -, answer, hanswers⟩
  · exact absurd (hspawned ▸ hmem) List.not_mem_nil
  · exact absurd (hcalling ▸ hmem) List.not_mem_nil
  · rw [hanswers]
    exact List.cons_ne_nil _ _

/-- A send that had an answer at some time has just this one at any later time. -/
theorem Jobs.answered_take (h : Jobs s p) {k r i : Nat} {m : Message}
    (hk : p.history[k]? = some (.sent m)) (hri : r ≤ i)
    (hearly : answersOf k (p.history.take r) ≠ []) :
    ∃ answer, answersOf k (p.history.take i) = [(answer, Sink.outcome (s.job m) answer)] := by
  -- both past histories are parts of the present one, so their answer is the one there is
  have hsplit : p.history.take r ++ (p.history.take i).drop r = p.history.take i := by
    have htake : (p.history.take i).take r = p.history.take r := by
      rw [List.take_take, Nat.min_eq_left hri]
    rw [← htake, List.take_append_drop]
  have hwhole : answersOf k (p.history.take i) ++ answersOf k (p.history.drop i)
      = answersOf k p.history := by
    rw [← Mark.answersOf_append, List.take_append_drop]
  have hpart : answersOf k (p.history.take i) ≠ [] := by
    rw [← hsplit, Mark.answersOf_append]
    exact fun hnil => hearly (List.append_eq_nil_iff.1 hnil).1
  rcases h.stages k m hk with ⟨-, -, ha⟩ | ⟨-, -, ha⟩ | ⟨-, -, answer, ha⟩
  · rw [ha] at hwhole
    exact absurd (List.append_eq_nil_iff.1 hwhole).1 hpart
  · rw [ha] at hwhole
    exact absurd (List.append_eq_nil_iff.1 hwhole).1 hpart
  · rw [ha] at hwhole
    rcases List.append_eq_singleton_iff.1 hwhole with ⟨hnil, -⟩ | ⟨hone, -⟩
    · exact absurd hnil hpart
    · exact ⟨answer, hone⟩

/-! ## Steps of jobs -/

/-- A send stays in its stage as long as its job stays where it is and no mark about it is added. -/
theorem Stage.keep {p' : Publishing} {k : Nat} {m : Message} (h : Stage s p k m)
    (hspawned : (k, s.job m) ∈ p.spawned → (k, s.job m) ∈ p'.spawned)
    (hcalling : (k, s.job m) ∈ p.calling → (k, s.job m) ∈ p'.calling)
    (hgone : k ∈ (p'.spawned ++ p'.calling).map (·.1) → k ∈ (p.spawned ++ p.calling).map (·.1))
    (hcalls : callsOf k p'.history = callsOf k p.history)
    (hanswers : answersOf k p'.history = answersOf k p.history) : Stage s p' k m := by
  rcases h with ⟨hmem, hc, ha⟩ | ⟨hmem, hc, ha⟩ | ⟨hnone, hc, answer, ha⟩
  · exact .spawned (hspawned hmem) (hcalls.trans hc) (hanswers.trans ha)
  · exact .calling (hcalling hmem) (hcalls.trans hc) (hanswers.trans ha)
  · exact .answered (fun hmem => hnone (hgone hmem)) (hcalls.trans hc) answer (hanswers.trans ha)

/-- A job stays that of its send. -/
theorem Jobs.sent_grown (h : Jobs s p) {x : Nat × Job} (hx : x ∈ p.spawned ++ p.calling)
    (mark : Mark) : ∃ m, (p.history ++ [mark])[x.1]? = some (.sent m) ∧ x.2 = s.job m := by
  obtain ⟨m, hm, hjob⟩ := h.jobs x hx
  exact ⟨m, getElem?_grown hm _, hjob⟩

/-- What is no send in a longer history was none before. -/
theorem Jobs.strays_grown (h : Jobs s p) {mark : Mark} {k : Nat}
    (hk : ∀ m, (p.history ++ [mark])[k]? ≠ some (.sent m)) :
    callsOf k p.history = [] ∧ answersOf k p.history = [] :=
  h.strays k fun m hm => hk m (getElem?_grown hm _)

/-- What is no send is not the send of a job. -/
theorem ne_of_stray {history : List Mark} {mark : Mark} {send k : Nat} {m : Message}
    (hm : history[send]? = some (.sent m))
    (hk : ∀ m, (history ++ [mark])[k]? ≠ some (.sent m)) : k ≠ send := by
  rintro rfl
  exact hk m (getElem?_grown hm _)

/-- A send in a history that has grown by another mark was there before. -/
theorem sent_of_grown {history : List Mark} {mark : Mark} {k : Nat} {m : Message}
    (hmark : ∀ m, mark ≠ .sent m) (hk : (history ++ [mark])[k]? = some (.sent m)) :
    history[k]? = some (.sent m) := by
  rcases getElem?_snoc hk with hold | ⟨-, hsame⟩
  · exact hold
  · exact absurd hsame.symm (hmark m)

/-- Marks about flushes do not matter to the jobs. -/
theorem Jobs.grow (h : Jobs s p) {mark : Mark} (hsent : sends [mark] = 0) (hanswered : answers [mark] = 0)
    (hcalls : ∀ k, callsOf k [mark] = []) (hanswers : ∀ k, answersOf k [mark] = [])
    (waiting flushing : List Nat) :
    Jobs s { p with waiting, flushing, history := p.history ++ [mark] } where
  topic := h.topic
  format := h.format
  count := h.count
  balance := by
    show _ + answers (p.history ++ [mark]) = sends (p.history ++ [mark])
    have hbalance := h.balance
    simp only [answers, sends, List.countP_append] at hsent hanswered hbalance ⊢
    omega
  jobs := fun x hx => h.sent_grown hx mark
  nodup := h.nodup
  stages := by
    intro k m hk
    have hmark : ∀ m, mark ≠ .sent m := by
      rintro m rfl
      exact absurd hsent (by simp [sends])
    refine (h.stages k m (sent_of_grown hmark hk)).keep id id id ?_ ?_
    · show callsOf k (p.history ++ [mark]) = callsOf k p.history
      rw [Mark.callsOf_append, hcalls, List.append_nil]
    · show answersOf k (p.history ++ [mark]) = answersOf k p.history
      rw [Mark.answersOf_append, hanswers, List.append_nil]
  strays := by
    intro k hk
    have hold := h.strays_grown hk
    show callsOf k (p.history ++ [mark]) = [] ∧ answersOf k (p.history ++ [mark]) = []
    rw [Mark.callsOf_append, Mark.answersOf_append, hold.1, hold.2, hcalls, hanswers]
    exact ⟨rfl, rfl⟩

/-- A message is sent. -/
theorem Jobs.send (h : Jobs s p) (m : Message) : Jobs s (p.step (.send m)) := by
  have hjob : (p.sink.send m).1 = s.job m := h.job_eq m
  have hcalls : ∀ k, callsOf k (p.history ++ [.sent m]) = callsOf k p.history := fun k => by
    rw [Mark.callsOf_append]
    exact List.append_nil _
  have hanswers : ∀ k, answersOf k (p.history ++ [.sent m]) = answersOf k p.history := fun k => by
    rw [Mark.answersOf_append]
    exact List.append_nil _
  have hnew : ∀ m', p.history[p.history.length]? ≠ some (.sent m') := fun m' hm' =>
    absurd (List.getElem?_eq_some_iff.1 hm').1 (Nat.lt_irrefl _)
  have hfresh : p.history.length ∉ (p.spawned ++ p.calling).map (·.1) := by
    intro hmem
    obtain ⟨x, hx, heq⟩ := List.mem_map.1 hmem
    obtain ⟨m', hm', -⟩ := h.jobs x hx
    exact hnew m' (heq ▸ hm')
  refine ⟨h.topic, h.format, ?_, ?_, ?_, ?_, ?_, ?_⟩
  · -- count
    have hcount := h.count
    show p.sink.inFlight.count + 1 = (p.spawned ++ [_]).length + p.calling.length
    rw [List.length_append, List.length_singleton]
    omega
  · -- balance
    have hbalance := h.balance
    show p.sink.inFlight.count + 1 + answers (p.history ++ [.sent m])
      = sends (p.history ++ [.sent m])
    simp only [answers, sends, List.countP_append, List.countP_singleton] at hbalance ⊢
    simp only [Bool.false_eq_true, if_false, if_true]
    omega
  · -- jobs
    intro x hx
    have hx' : x ∈ p.spawned ++ [(p.history.length, (p.sink.send m).1)] ++ p.calling := hx
    rw [List.mem_append, List.mem_append, List.mem_singleton] at hx'
    rcases hx' with (hold | rfl) | hold
    · exact h.sent_grown (List.mem_append_left _ hold) _
    · exact ⟨m, List.getElem?_concat_length, hjob⟩
    · exact h.sent_grown (List.mem_append_right _ hold) _
  · -- nodup
    show ((p.spawned ++ [(p.history.length, (p.sink.send m).1)] ++ p.calling).map (·.1)).Nodup
    have hperm : ((p.spawned ++ [(p.history.length, (p.sink.send m).1)] ++ p.calling).map (·.1)).Perm
        (p.history.length :: (p.spawned ++ p.calling).map (·.1)) := by
      rw [List.append_assoc]
      exact List.Perm.map (fun x : Nat × Job => x.1) List.perm_middle
    exact hperm.symm.nodup (List.nodup_cons.2 ⟨hfresh, h.nodup⟩)
  · -- stages
    intro k m' hk
    rcases getElem?_snoc hk with hold | ⟨rfl, hsame⟩
    · have hne : k ≠ p.history.length := fun heq => hnew m' (heq ▸ hold)
      refine (h.stages k m' hold).keep (fun hmem => List.mem_append_left _ hmem) id ?_ (hcalls k)
        (hanswers k)
      intro hmem
      have hmem' : k ∈ (p.spawned ++ [(p.history.length, (p.sink.send m).1)]
        ++ p.calling).map (·.1) := hmem
      simp only [List.map_append, List.mem_append, List.map_cons, List.map_nil,
        List.mem_singleton] at hmem' ⊢
      rcases hmem' with (hold' | hlast) | hold'
      · exact Or.inl hold'
      · exact absurd hlast hne
      · exact Or.inr hold'
    · obtain rfl : m' = m := by simpa using hsame
      obtain ⟨hc, ha⟩ := h.strays _ hnew
      refine .spawned ?_ ((hcalls _).trans hc) ((hanswers _).trans ha)
      rw [← hjob]
      exact List.mem_append_right _ (List.mem_singleton.2 rfl)
  · -- strays
    intro k hk
    obtain ⟨hc, ha⟩ := h.strays_grown hk
    exact ⟨(hcalls k).trans hc, (hanswers k).trans ha⟩

/-- A job is what the books say of its send. -/
theorem Jobs.sent_of_mem (h : Jobs s p) {send : Nat} {job : Job}
    (hmem : (send, job) ∈ p.spawned ++ p.calling) :
    ∃ m, p.history[send]? = some (.sent m) ∧ job = s.job m := h.jobs _ hmem

/-- A spawned job runs: the broker is called with its record. -/
theorem Jobs.run (h : Jobs s p) (place : Nat) : Jobs s (p.step (.run place)) := by
  simp only [Publishing.step]
  split
  · exact h
  rename_i send job hget
  have hspawned := perm_eraseIdx hget
  have hall : (p.spawned ++ p.calling).Perm
      (p.spawned.eraseIdx place ++ (p.calling ++ [(send, job)])) := by
    refine (hspawned.append_right _).trans ?_
    rw [← List.append_assoc]
    exact (List.perm_append_singleton (send, job) _).symm
  have hids : ((send, job) :: (p.spawned.eraseIdx place ++ p.calling)).map (·.1) |>.Nodup :=
    ((hspawned.append_right p.calling).map (·.1)).nodup h.nodup
  obtain ⟨hfresh, -⟩ := List.nodup_cons.1 hids
  obtain ⟨m, hm, rfl⟩ := h.sent_of_mem (List.mem_append_left _ (List.mem_of_getElem? hget))
  have hanswers : ∀ k, answersOf k (p.history ++ [.called send (s.job m).record])
      = answersOf k p.history := fun k => by
    rw [Mark.answersOf_append]
    exact List.append_nil _
  have hcalls : ∀ k, k ≠ send → callsOf k (p.history ++ [.called send (s.job m).record])
      = callsOf k p.history := fun k hne => by
    rw [Mark.callsOf_append]
    simp [callsOf, Ne.symm hne]
  refine ⟨h.topic, h.format, ?_, ?_, ?_, ?_, ?_, ?_⟩
  · -- count
    have hcount := h.count
    have hlength := hall.length_eq
    simp only [List.length_append] at hlength ⊢
    omega
  · -- balance
    have hbalance := h.balance
    simp only [answers, sends, List.countP_append, List.countP_singleton] at hbalance ⊢
    simp only [Bool.false_eq_true, if_false]
    omega
  · -- jobs
    intro x hx
    exact h.sent_grown (hall.mem_iff.2 hx) _
  · -- nodup
    exact (hall.map (·.1)).nodup h.nodup
  · -- stages
    intro k m' hk
    have hold := sent_of_grown (fun _ => by simp) hk
    by_cases hne : k = send
    · -- this send goes on to its next stage
      subst hne
      obtain rfl : m = m' := by simpa [hm] using hold
      rcases h.stages k m hm with ⟨-, hc, ha⟩ | ⟨hmem, -, -⟩ | ⟨hgone, -, -, -⟩
      · refine .calling (List.mem_append_right _ (List.mem_singleton.2 rfl)) ?_ ((hanswers k).trans ha)
        rw [Mark.callsOf_append, hc]
        simp [callsOf, Sink.job, Sink.send]
      · exact absurd (List.mem_map_of_mem (List.mem_append_right _ hmem)) hfresh
      · exact absurd (List.mem_map_of_mem (List.mem_append_left _ (List.mem_of_getElem? hget))) hgone
    · refine (h.stages k m' hold).keep ?_ (fun hmem => List.mem_append_left _ hmem) ?_ (hcalls k hne)
        (hanswers k)
      · intro hmem
        rcases List.mem_cons.1 (hspawned.mem_iff.1 hmem) with heq | hmem
        · exact absurd (congrArg Prod.fst heq) hne
        · exact hmem
      · exact (hall.map (·.1)).mem_iff.2
  · -- strays
    intro k hk
    have hne := ne_of_stray hm hk
    obtain ⟨hc, ha⟩ := h.strays_grown hk
    exact ⟨(hcalls k hne).trans hc, (hanswers k).trans ha⟩

/-- The broker answers a job. -/
theorem Jobs.answer (h : Jobs s p) (place : Nat) (answer : Except BrokerError Receipt) :
    Jobs s (p.step (.answer place answer)) := by
  simp only [Publishing.step]
  split
  · exact h
  rename_i send job hget
  have hcalling := perm_eraseIdx hget
  have hall : (p.spawned ++ p.calling).Perm
      ((send, job) :: (p.spawned ++ p.calling.eraseIdx place)) :=
    (hcalling.append_left _).trans List.perm_middle
  have hids := (hall.map (·.1)).nodup h.nodup
  obtain ⟨hfresh, hrest⟩ := List.nodup_cons.1 hids
  have hmem := List.mem_of_getElem? hget
  obtain ⟨m, hm, rfl⟩ := h.sent_of_mem (List.mem_append_right _ hmem)
  have hcalls : ∀ k, callsOf k (p.history ++
      [.answered send answer (Sink.outcome (s.job m) answer)]) = callsOf k p.history := fun k => by
    rw [Mark.callsOf_append]
    exact List.append_nil _
  have hanswers : ∀ k, k ≠ send → answersOf k (p.history ++
      [.answered send answer (Sink.outcome (s.job m) answer)]) = answersOf k p.history :=
    fun k hne => by
      rw [Mark.answersOf_append]
      simp [answersOf, Ne.symm hne]
  refine ⟨h.topic, h.format, ?_, ?_, ?_, hrest, ?_, ?_⟩
  · -- count
    have hcount := h.count
    have hlength := hcalling.length_eq
    rw [List.length_cons] at hlength
    show p.sink.inFlight.count - 1 = p.spawned.length + (p.calling.eraseIdx place).length
    omega
  · -- balance
    have hcount := h.count
    have hlength := hcalling.length_eq
    rw [List.length_cons] at hlength
    have hbalance := h.balance
    show p.sink.inFlight.count - 1 + answers (p.history ++ [_]) = sends (p.history ++ [_])
    simp only [answers, sends, List.countP_append, List.countP_singleton] at hbalance ⊢
    simp only [Bool.false_eq_true, if_false, if_true]
    omega
  · -- jobs
    intro x hx
    exact h.sent_grown (hall.mem_iff.2 (List.mem_cons_of_mem _ hx)) _
  · -- stages
    intro k m' hk
    have hold := sent_of_grown (fun _ => by simp) hk
    by_cases hne : k = send
    · -- this send is done
      subst hne
      obtain rfl : m = m' := by simpa [hm] using hold
      rcases h.stages k m hm with ⟨hmem', -, -⟩ | ⟨-, hc, ha⟩ | ⟨hgone, -, -, -⟩
      · exact absurd (List.mem_map_of_mem (List.mem_append_left _ hmem')) hfresh
      · refine .answered hfresh ((hcalls k).trans hc) answer ?_
        show answersOf k (p.history ++ [_]) = _
        rw [Mark.answersOf_append, ha]
        simp [answersOf, Sink.complete]
      · exact absurd (List.mem_map_of_mem (List.mem_append_right _ hmem)) hgone
    · refine (h.stages k m' hold).keep id ?_ ?_ (hcalls k) (hanswers k hne)
      · intro hmem'
        rcases List.mem_cons.1 (hcalling.mem_iff.1 hmem') with heq | hmem'
        · exact absurd (congrArg Prod.fst heq) hne
        · exact hmem'
      · intro hmem'
        exact (hall.map (·.1)).mem_iff.2 (List.mem_cons_of_mem _ hmem')
  · -- strays
    intro k hk
    have hne := ne_of_stray hm hk
    obtain ⟨hc, ha⟩ := h.strays_grown hk
    exact ⟨(hcalls k).trans hc, (hanswers k hne).trans ha⟩

/-! ## Steps of flushes -/

/-- What has been said of a flush that reached the broker stays true: its past does not change. -/
theorem Flushes.reached_grown (h : Flushes p) {r f : Nat}
    (hr : p.history[r]? = some (.flushReached f)) (mark : Mark) : f < r
      ∧ (p.history ++ [mark])[f]? = some .flushBegun ∧ Quiet ((p.history ++ [mark]).take r) := by
  obtain ⟨hlt, hbegun, hquiet⟩ := h.reached r f hr
  have hle : r ≤ p.history.length := Nat.le_of_lt (List.getElem?_eq_some_iff.1 hr).1
  rw [List.take_append_of_le_length hle]
  exact ⟨hlt, getElem?_grown hbegun _, hquiet⟩

theorem Flushes.ended_grown (h : Flushes p) {i f : Nat} {answer : Except SinkError Unit}
    (hi : p.history[i]? = some (.flushEnded f answer)) (mark : Mark) :
    ∃ r < i, (p.history ++ [mark])[r]? = some (.flushReached f) := by
  obtain ⟨r, hlt, hr⟩ := h.ended i f answer hi
  exact ⟨r, hlt, getElem?_grown hr _⟩

theorem Flushes.flushing_grown (h : Flushes p) {f : Nat} (hf : f ∈ p.flushing) (mark : Mark) :
    ∃ r : Nat, (p.history ++ [mark])[r]? = some (.flushReached f) := by
  obtain ⟨r, hr⟩ := h.flushing f hf
  exact ⟨r, getElem?_grown hr _⟩

/-- Marks of jobs and of flushes that begin do not matter to the flushes under way. -/
theorem Flushes.grow (h : Flushes p) {p' : Publishing} {mark : Mark}
    (hhistory : p'.history = p.history ++ [mark])
    (hwaiting : ∀ f ∈ p'.waiting, f ∈ p.waiting ∨ f = p.history.length ∧ mark = .flushBegun)
    (hflushing : p'.flushing = p.flushing) (hreached : ∀ f, mark ≠ .flushReached f)
    (hended : ∀ f answer, mark ≠ .flushEnded f answer) : Flushes p' where
  waiting := by
    intro f hf
    rw [hhistory]
    rcases hwaiting f hf with hold | ⟨rfl, rfl⟩
    · exact getElem?_grown (h.waiting f hold) _
    · exact List.getElem?_concat_length
  flushing := by
    intro f hf
    rw [hhistory]
    exact h.flushing_grown (hflushing ▸ hf) mark
  reached := by
    intro r f hr
    rw [hhistory] at hr ⊢
    rcases getElem?_snoc hr with hold | ⟨-, heq⟩
    · exact h.reached_grown hold mark
    · exact absurd heq.symm (hreached f)
  ended := by
    intro i f answer hi
    rw [hhistory] at hi ⊢
    rcases getElem?_snoc hi with hold | ⟨-, heq⟩
    · exact h.ended_grown hold mark
    · exact absurd heq.symm (hended f answer)

/-- A flush looks, and reaches the broker if nothing is in flight. -/
theorem Flushes.look (h : Flushes p) (hjobs : Jobs s p) (place : Nat) :
    Flushes (p.step (.look place)) := by
  simp only [Publishing.step]
  split
  · exact h
  rename_i f hget
  split
  · rename_i hidle
    have hquiet := hjobs.quiet hidle
    have hbegun := h.waiting f (List.mem_of_getElem? hget)
    have hlt := (List.getElem?_eq_some_iff.1 hbegun).1
    refine ⟨?_, ?_, ?_, ?_⟩
    · intro f' hf'
      exact getElem?_grown (h.waiting f' (List.mem_of_mem_eraseIdx hf')) _
    · intro f' hf'
      rcases List.mem_append.1 hf' with hold | hnew
      · exact h.flushing_grown hold _
      · obtain rfl := List.mem_singleton.1 hnew
        exact ⟨p.history.length, List.getElem?_concat_length⟩
    · intro r f' hr
      rcases getElem?_snoc hr with hold | ⟨rfl, heq⟩
      · exact h.reached_grown hold _
      · -- all that came before this flush has just been seen to be answered
        obtain rfl : f' = f := by simpa using heq
        refine ⟨hlt, getElem?_grown hbegun _, ?_⟩
        show Quiet ((p.history ++ [_]).take p.history.length)
        rw [List.take_append_of_le_length (Nat.le_refl _), List.take_length]
        exact hquiet
    · intro i f' answer hi
      rcases getElem?_snoc hi with hold | ⟨-, heq⟩
      · exact h.ended_grown hold _
      · exact absurd heq (by simp)
  · exact h

/-- The broker answers a flush. -/
theorem Flushes.answerFlush (h : Flushes p) (place : Nat) (answer : Except BrokerError Unit) :
    Flushes (p.step (.answerFlush place answer)) := by
  simp only [Publishing.step]
  split
  · exact h
  rename_i f hget
  refine ⟨?_, ?_, ?_, ?_⟩
  · intro f' hf'
    exact getElem?_grown (h.waiting f' hf') _
  · intro f' hf'
    exact h.flushing_grown (List.mem_of_mem_eraseIdx hf') _
  · intro r f' hr
    rcases getElem?_snoc hr with hold | ⟨-, heq⟩
    · exact h.reached_grown hold _
    · exact absurd heq (by simp)
  · intro i f' answer' hi
    rcases getElem?_snoc hi with hold | ⟨rfl, heq⟩
    · exact h.ended_grown hold _
    · obtain ⟨rfl, -⟩ : f' = f ∧ answer' = Sink.flushed answer := by simpa using heq
      obtain ⟨r, hr⟩ := h.flushing f' (List.mem_of_getElem? hget)
      exact ⟨r, (List.getElem?_eq_some_iff.1 hr).1, getElem?_grown hr _⟩

/-! ## Runs -/

/-- The invariant of a sink at work. -/
structure Publishing.Inv (s : Sink) (p : Publishing) : Prop where
  jobs : Jobs s p
  flushes : Flushes p

namespace Publishing

/-- A sink with nothing in flight. -/
theorem inv_start (s : Sink) (h : s.inFlight.count = 0) : Inv s { sink := s } where
  jobs := {
    topic := rfl
    format := rfl
    count := h
    balance := by
      show s.inFlight.count + 0 = 0
      rw [h]
    jobs := fun x hx => absurd hx List.not_mem_nil
    nodup := List.nodup_nil
    stages := fun k m hk => absurd hk (by simp)
    strays := fun k _ => ⟨rfl, rfl⟩ }
  flushes := {
    waiting := fun f hf => absurd hf List.not_mem_nil
    flushing := fun f hf => absurd hf List.not_mem_nil
    reached := fun r f hr => absurd hr (by simp)
    ended := fun i f answer hi => absurd hi (by simp) }

/-- **Step**: every event keeps the invariant. -/
theorem inv_step (h : Inv s p) (e : Event) : Inv s (p.step e) := by
  obtain ⟨hjobs, hflushes⟩ := h
  cases e with
  | send m =>
    refine ⟨hjobs.send m, hflushes.grow rfl ?_ rfl ?_ ?_⟩
    · exact fun f hf => Or.inl hf
    · exact fun f => by simp
    · exact fun f answer => by simp
  | run place =>
    refine ⟨hjobs.run place, ?_⟩
    simp only [step]
    split
    · exact hflushes
    · refine hflushes.grow rfl ?_ rfl ?_ ?_
      · exact fun f hf => Or.inl hf
      · exact fun f => by simp
      · exact fun f answer => by simp
  | answer place answer =>
    refine ⟨hjobs.answer place answer, ?_⟩
    simp only [step]
    split
    · exact hflushes
    · refine hflushes.grow rfl ?_ rfl ?_ ?_
      · exact fun f hf => Or.inl hf
      · exact fun f => by simp
      · exact fun f answer => by simp
  | flush =>
    refine ⟨hjobs.grow rfl rfl (fun _ => rfl) (fun _ => rfl) _ _, ?_⟩
    refine hflushes.grow rfl ?_ rfl ?_ ?_
    · intro f hf
      rcases List.mem_append.1 hf with hold | hnew
      · exact Or.inl hold
      · exact Or.inr ⟨List.mem_singleton.1 hnew, rfl⟩
    · exact fun f => by simp
    · exact fun f answer => by simp
  | look place =>
    refine ⟨?_, hflushes.look hjobs place⟩
    simp only [step]
    split
    · exact hjobs
    split
    · exact hjobs.grow rfl rfl (fun _ => rfl) (fun _ => rfl) _ _
    · exact hjobs
  | answerFlush place answer =>
    refine ⟨?_, hflushes.answerFlush place answer⟩
    simp only [step]
    split
    · exact hjobs
    · exact hjobs.grow rfl rfl (fun _ => rfl) (fun _ => rfl) _ _

/-- **Run**: every run keeps the invariant. -/
theorem inv_run (h : Inv s p) (events : List Event) : Inv s (p.run events) := by
  induction events generalizing p with
  | nil => exact h
  | cons e rest ih => exact ih (inv_step h e)

/-! ## Soundness -/

/-- A sink that began as `s` neither loses nor repeats a message, and its flushes are sound. -/
structure Sound (s : Sink) (p : Publishing) : Prop where
  /-- The jobs in flight are the sends that have not been answered. -/
  inFlight : p.sink.inFlight.count = sends p.history - answers p.history
  answers_le : answers p.history ≤ sends p.history
  /-- The broker is called once for a send, with the record of its message, as soon as its job has run. -/
  calls : ∀ k m, p.history[k]? = some (.sent m) →
    callsOf k p.history = if (k, s.job m) ∈ p.spawned then [] else [s.record m]
  /-- One answer ends a send, and one notice is logged about it. -/
  outcomes : ∀ k m, p.history[k]? = some (.sent m) →
    (answersOf k p.history = [] ∧ (k, s.job m) ∈ p.spawned ++ p.calling)
    ∨ ∃ answer, answersOf k p.history = [(answer, Sink.outcome (s.job m) answer)]
  /-- The broker is called for nothing else. -/
  strays : ∀ k, (∀ m, p.history[k]? ≠ some (.sent m)) →
    callsOf k p.history = [] ∧ answersOf k p.history = []
  /-- A flush reaches the broker at a moment when nothing is in flight. -/
  idle : ∀ r f : Nat, p.history[r]? = some (.flushReached f) →
    answers (p.history.take r) = sends (p.history.take r)
  /-- When a flush has ended well, whatever was sent before it began has been answered. -/
  flushed : ∀ i f : Nat, p.history[i]? = some (.flushEnded f (.ok ())) →
    f < i ∧ p.history[f]? = some .flushBegun ∧ ∀ k m, k < f → p.history[k]? = some (.sent m) →
      ∃ answer, answersOf k (p.history.take i) = [(answer, Sink.outcome (s.job m) answer)]

/-- The books say that the sink is sound. -/
theorem Inv.sound (h : Inv s p) : Sound s p where
  inFlight := by
    have hbalance := h.jobs.balance
    omega
  answers_le := by
    have hbalance := h.jobs.balance
    omega
  calls := by
    intro k m hk
    rcases h.jobs.stages k m hk with ⟨hmem, hcalls, -⟩ | ⟨hmem, hcalls, -⟩ | ⟨hgone, hcalls, -, -⟩
    · rw [if_pos hmem, hcalls]
    · -- a job is not both spawned and with the broker
      have hnodup := h.jobs.nodup
      rw [List.map_append, List.nodup_append] at hnodup
      have hnot : (k, s.job m) ∉ p.spawned := fun hspawned =>
        hnodup.2.2 k (List.mem_map_of_mem hspawned) k (List.mem_map_of_mem hmem) rfl
      rw [if_neg hnot, hcalls]
    · have hnot : (k, s.job m) ∉ p.spawned := fun hspawned =>
        hgone (List.mem_map_of_mem (List.mem_append_left _ hspawned))
      rw [if_neg hnot, hcalls]
  outcomes := by
    intro k m hk
    rcases h.jobs.stages k m hk with ⟨hmem, -, ha⟩ | ⟨hmem, -, ha⟩ | ⟨-, -, answer, ha⟩
    · exact Or.inl ⟨ha, List.mem_append_left _ hmem⟩
    · exact Or.inl ⟨ha, List.mem_append_right _ hmem⟩
    · exact Or.inr ⟨answer, ha⟩
  strays := h.jobs.strays
  idle := fun r f hr => (h.flushes.reached r f hr).2.2.balance
  flushed := by
    intro i f hi
    obtain ⟨r, hri, hr⟩ := h.flushes.ended i f _ hi
    obtain ⟨hfr, hbegun, hquiet⟩ := h.flushes.reached r f hr
    refine ⟨Nat.lt_trans hfr hri, hbegun, fun k m hkf hk => ?_⟩
    have hkr : (p.history.take r)[k]? = some (.sent m) := by
      rw [List.getElem?_take_of_lt (Nat.lt_trans hkf hfr)]
      exact hk
    exact h.jobs.answered_take hk (Nat.le_of_lt hri) (hquiet.answered k m hkr)

/-- **Soundness**: whatever the broker answers and in whatever order, a new sink neither loses nor repeats
a message, and its flushes are sound. -/
theorem sound_run (topic : Topic) (format : Format) (events : List Event) :
    Sound { topic, format } (({ sink := { topic, format } } : Publishing).run events) :=
  (inv_run (inv_start { topic, format } rfl) events).sound

end Publishing

end FieldBridge
