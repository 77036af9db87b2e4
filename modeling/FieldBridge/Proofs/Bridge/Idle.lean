/-
  An idle bridge.

  1. **Nothing under way** — in a bridge that does not poll nothing is under way between two events
     (`Idle`).  Letting things run changes nothing then (`Idle.settle`), and time passes without a stop
     (`Idle.sleepUntil`).

  2. **Monitoring** — a monitor call on an idle bridge goes to its end (`Idle.monitor`): it waits at most
     for its subscription, which is due when the bridge has slept.
-/

import FieldBridge.Bridge.Lifecycle
import FieldBridge.Proofs.Sink.Outbox
import FieldBridge.Proofs.Source.Spelling

namespace FieldBridge.Bridge

open Client (Alone)

/-- Nothing is under way. -/
structure Idle (b : Bridge) : Prop where
  timer : b.timer = none
  spawned : b.spawned = []
  delayed : b.delayed = []
  outbox : b.outbox.Accepts

variable {b : Bridge} {texts : List String}

/-! ## Nothing under way -/

/-- What the client, the clock and the log say does not matter. -/
theorem Idle.keep (h : b.Idle) (client : Client) (now : Nat) (notices : List Notice) :
    ({ b with client, now, notices } : Bridge).Idle :=
  ⟨h.timer, h.spawned, h.delayed, h.outbox⟩

/-- Without a timer there are no ticks. -/
theorem tick_of_none (h : b.timer = none) : b.tick = b := by
  simp [tick, h]

/-- Nothing is held back. -/
theorem wake_of_nil (h : b.delayed = []) : b.wake = b := by
  simp only [wake, List.partition_eq_filter_filter, h, List.filter_nil, List.mergeSort_nil,
    List.foldl_nil]
  rw [← h]

theorem Idle.runSpawned (h : b.Idle) : b.runSpawned = b := by
  simp only [Bridge.runSpawned, h.spawned, List.foldl_nil]
  rw [← h.spawned]

theorem Idle.runJobs (h : b.Idle) : b.runJobs = b := by
  simp only [Bridge.runJobs, h.outbox.settle, h.outbox.notices, List.nil_append]
  rw [← h.outbox.notices]

/-- Nothing runs. -/
theorem Idle.settle (h : b.Idle) : b.settle = b := by
  rw [Bridge.settle, tick_of_none h.timer, wake_of_nil h.delayed, h.runSpawned, h.runJobs]

/-- Nothing falls due. -/
theorem Idle.sleepUntil (h : b.Idle) (t : Nat) : b.sleepUntil t = { b with now := max b.now t } := by
  have hstop : b.nextStop = none := by
    simp [nextStop, h.timer, h.delayed]
  rw [Bridge.sleepUntil]
  simp only [h.settle, hstop]

/-! ## Monitoring -/

/-- One call is taken as far as it gets. -/
theorem advance_one (b : Bridge) (call : MonitorCall) : b.advance [call]
    = ((b.client.advance b.now call).2.1.toList, { b with
      client := (b.client.advance b.now call).2.2
      notices := (b.client.advance b.now call).1.reverse ++ b.notices }) := by
  simp [Bridge.advance, Client.advanceAll, withClient, log]

/-- A call that gets to its end is done. -/
theorem await_done {call : MonitorCall} (rounds : Nat)
    (h : (b.client.advance b.now call).2.1 = none) : b.await (rounds + 1) [call] = { b with
      client := (b.client.advance b.now call).2.2
      notices := (b.client.advance b.now call).1.reverse ++ b.notices } := by
  simp [await, advance_one, h]

/-- A call that has to wait for its subscription goes on when that is due. -/
theorem await_opening {call : MonitorCall} {id : ConnectionId} {claim : Claim} {due : Nat}
    (rounds : Nat) (h : (b.client.advance b.now call).2.1 = some (.opening id claim due)) :
    b.await (rounds + 1) [call] = await rounds (({ b with
      client := (b.client.advance b.now call).2.2
      notices := (b.client.advance b.now call).1.reverse ++ b.notices } : Bridge).sleepUntil due)
      [.opening id claim due] := by
  simp [await, advance_one, h, MonitorCall.due?]

/-- **Monitoring** changes nothing but the client, the clock and the log, and leaves no call in
progress. -/
theorem Idle.monitor (h : b.Idle) (hclient : Alone texts b.client none) : ∃ client now notices,
    b.monitor texts = { b with client, now, notices } ∧ Alone texts client none := by
  obtain ⟨created, hinv⟩ := hclient.books
  have hasking : Alone texts b.client (some (.asking texts)) := by
    refine ⟨⟨created, Client.Inv.monitor hinv texts⟩, hclient.items, fun own heq => ?_⟩
    obtain rfl : .asking texts = own := Option.some.inj heq
    rfl
  obtain ⟨hfirst, hwaits⟩ := hasking.advance b.now
  have hmonitor : b.monitor texts = b.await (2 + 1) [.asking texts] := rfl
  cases hnext : (b.client.advance b.now (.asking texts)).2.1 with
  | none =>
    rw [hnext] at hfirst
    rw [hmonitor, await_done 2 hnext]
    exact ⟨_, _, _, rfl, hfirst⟩
  | some call =>
    -- the only wait is for the subscription, and the bridge sleeps until that is due
    obtain ⟨id, claim, due, rfl, -⟩ := hwaits call hnext
    rw [hnext] at hfirst
    have hsleep := (h.keep (b.client.advance b.now (.asking texts)).2.2 b.now
      ((b.client.advance b.now (.asking texts)).1.reverse ++ b.notices)).sleepUntil due
    rw [hmonitor, await_opening 2 hnext, hsleep]
    have hdue : due ≤ max b.now due := Nat.le_max_right _ _
    have hend := Client.advance_due (b.client.advance b.now (.asking texts)).2.2 id claim hdue
    have hlast := (hfirst.advance (max b.now due)).1
    rw [hend] at hlast
    rw [await_done 1 hend]
    exact ⟨_, _, _, rfl, hlast⟩

end FieldBridge.Bridge
