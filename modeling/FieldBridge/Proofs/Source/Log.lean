/-
  What the source side logs.

  Connecting, disconnecting, monitoring, unmonitoring and reading log what went wrong with the server.  None
  of it is about a job of the outbox, so the reports in a log are those of the outbox alone.
-/

import FieldBridge.Proofs.Notice
import FieldBridge.Source.Client
import FieldBridge.Source.Task

namespace FieldBridge

open FieldBridge.Notice (Silent)

/-! ## Connections -/

namespace Manager

variable {σ : Type}

theorem silent_deleteEach (t : Transport σ) (session : ConnectionId) (s : σ)
    (ids : List SubscriptionId) : Silent (deleteEach t session s ids).1 := by
  induction ids generalizing s with
  | nil => exact Notice.silent_nil
  | cons id rest ih =>
    rw [deleteEach]
    dsimp only
    split
    · exact ih _
    · exact Notice.silent_cons.2 ⟨rfl, ih _⟩

theorem silent_closeCurrent (t : Transport σ) (m : Manager) (s : σ) :
    Silent (m.closeCurrent t s).1 := by
  unfold closeCurrent
  split
  · exact Notice.silent_nil
  · rename_i session _ _
    have hdeleted := silent_deleteEach t session s (t.subscriptions session s)
    dsimp only
    split
    · exact hdeleted
    · exact Notice.silent_append.2 ⟨hdeleted, by simp [Notice.traceId?]⟩

theorem silent_connect (t : Transport σ) (url : String) (m : Manager) (s : σ) :
    Silent (m.connect t url s).2.1 := by
  have hclosed := silent_closeCurrent t m s
  unfold connect
  dsimp only
  split
  · exact hclosed
  · exact Notice.silent_append.2 ⟨hclosed, by simp [Notice.traceId?]⟩

end Manager

/-! ## Monitored nodes -/

namespace Connection

theorem silent_screen (c : Connection) (held : Claim) (texts : List String) :
    Silent (c.screen held texts).1 := by
  induction texts generalizing held with
  | nil => exact Notice.silent_nil
  | cons text rest ih =>
    rw [screen]
    split
    · exact Notice.silent_cons.2 ⟨rfl, ih held⟩
    · split
      · exact ih held
      · exact ih _

theorem silent_record (claim : Claim) (c : Connection) (results : List ItemResult) :
    Silent (record claim c results).1 := by
  induction results generalizing c with
  | nil => exact Notice.silent_nil
  | cons r rest ih =>
    rw [record]
    dsimp only
    split
    · exact ih _
    · exact Notice.silent_cons.2 ⟨rfl, ih c⟩

theorem silent_erase (c : Connection) (targets : List (NodeId × Monitored)) (statuses : List Status) :
    Silent (c.erase targets statuses).1 := by
  induction targets generalizing c statuses with
  | nil => exact Notice.silent_nil
  | cons target rest ih =>
    cases statuses with
    | nil => exact Notice.silent_nil
    | cons status others =>
      rw [erase]
      dsimp only
      split
      · exact ih _ others
      · exact Notice.silent_cons.2 ⟨rfl, ih _ others⟩

end Connection

/-! ## Calls -/

namespace Client

variable (c : Client) (now : Nat)

theorem silent_connect (url : String) : Silent (c.connect url).2.1 :=
  Manager.silent_connect Link.transport url c.manager c.link

theorem silent_disconnect : Silent c.disconnect.1 :=
  Manager.silent_closeCurrent Link.transport c.manager c.link

theorem silent_conclude (id : ConnectionId) (claim : Claim)
    (answer : Except TransportError (List ItemResult)) : Silent (c.conclude id claim answer).1 := by
  unfold conclude
  split
  · simp [Notice.traceId?]
  · split
    · exact Notice.silent_nil
    · exact Connection.silent_record claim _ _

theorem silent_subscribe (id : ConnectionId) (claim : Claim) : Silent (c.subscribe now id claim).1 := by
  unfold subscribe
  split
  · exact Notice.silent_nil
  · split
    · exact Notice.silent_nil
    · exact Notice.silent_nil
    · split
      · simp [Notice.traceId?]
      · exact Notice.silent_nil
      · exact Notice.silent_nil

/-- A step of a monitor call. -/
theorem silent_step (call : MonitorCall) : Silent (c.step now call).1 := by
  cases call with
  | asking texts =>
    show Silent (c.ask texts).1
    unfold ask
    split
    · exact Notice.silent_nil
    · exact Connection.silent_screen _ [] texts
  | waiting id claim => exact silent_subscribe c now id claim
  | opening id claim due =>
    show Silent (if due ≤ now then c.opened id claim else ([], _, c)).1
    split
    · exact Notice.silent_nil
    · exact Notice.silent_nil
  | recording id claim answer => exact silent_conclude c id claim answer

theorem silent_advance (call : MonitorCall) : Silent (c.advance now call).1 := by
  -- a call gets further with every step
  induction hwaits : call.remaining using Nat.strongRecOn generalizing c call with
  | ind waits ih =>
    have hstep := silent_step c now call
    rw [advance]
    split
    · rename_i hnext
      rw [hnext] at hstep
      exact hstep
    · rename_i hnext
      rw [hnext] at hstep
      split
      · rename_i hless
        exact Notice.silent_append.2 ⟨hstep, ih _ (hwaits ▸ hless) _ _ rfl⟩
      · exact hstep

theorem silent_advanceAll (calls : List MonitorCall) : Silent (advanceAll now c calls).1 := by
  induction calls generalizing c with
  | nil => exact Notice.silent_nil
  | cons call rest ih => exact Notice.silent_append.2 ⟨silent_advance c now call, ih _⟩

theorem silent_unmonitor (texts : List String) : Silent (c.unmonitor texts).1 := by
  unfold unmonitor
  split
  · exact Notice.silent_nil
  · rename_i call _
    unfold finishUnmonitor
    split
    · exact Notice.silent_nil
    · dsimp only
      split
      · exact Notice.silent_nil
      · split
        · simp [Notice.traceId?]
        · exact Connection.silent_erase _ _ _

end Client

/-! ## Readings -/

theorem Reading.silent_complete (r : Reading) (time : Instant)
    (answer : Except TransportError (List DataValue)) : Silent (r.complete time answer).1 := by
  cases answer with
  | error e => exact Notice.silent_nil
  | ok values =>
    show Silent (r.check values)
    unfold check
    split
    · exact Notice.silent_nil
    · simp [Notice.traceId?]

theorem Reading.silent_quiet (text : String) (outcome : Except ReadError AttributeSet) :
    Silent (Reading.quiet text outcome).1 := by
  unfold quiet
  split
  · exact Notice.silent_nil
  · exact Notice.silent_nil
  · simp [Notice.traceId?]

/-- What a task logs about its reading. -/
theorem ReadTask.silent_event (t : ReadTask) (outcome : Except ReadError AttributeSet) :
    Silent (t.event outcome).1 := by
  obtain ⟨node, purpose⟩ := t
  cases purpose with
  | poll =>
    show Silent (pollEvent node outcome).1
    unfold pollEvent
    split
    · exact Notice.silent_nil
    · exact Notice.silent_nil
    · simp [Notice.traceId?]
  | change data =>
    have hquiet := Reading.silent_quiet node outcome
    refine Notice.silent_append.2 ⟨hquiet, ?_⟩
    split
    · exact Notice.silent_nil
    · simp [Notice.traceId?]

end FieldBridge
