/-
  An MQTT broker at work.

  1. **Events** — sends begin at any time; the client accepts or refuses their publishes in any order and
     for any reason; an accepted publish is acknowledged at any time, also before its send has gone on to
     take its offset; flushes begin at any time and look at any time; and the acknowledgements may stop.
     That an acknowledgement is one of an accepted publish, and of each at most once, is all that is
     assumed.

  2. **Custody** (`Inv`) — a send that has begun is in one of four places: its publish has no answer, it
     was refused, it is outstanding, or it was acknowledged.  At the same time it is with the client,
     refused, accepted but not resumed, or returned.  Each event moves one send from one place to another.

  3. **Accounts** (`exact_accounts`) — so the counter is the sends begun less those refused and those
     acknowledged, whoever ends a record finds it counted, a flush ends well only when nothing is
     outstanding, and the offsets of a partition count up from zero without a gap.
-/

import Mathlib.Data.List.Nodup
import Mathlib.Data.List.Perm.Basic
import FieldBridge.Association
import FieldBridge.Broker.Mqtt
import FieldBridge.Proofs.Sink.Publishing

namespace FieldBridge

/-! ## Events -/

/-- A send, numbered in the order in which sends begin. -/
structure MqttSend where
  number : Nat
  record : Record
  deriving DecidableEq

/-- What has happened. -/
inductive MqttExchange.Mark where
  | begun (send : MqttSend)
  /-- The client refused the publish, and the send has failed. -/
  | refused (send : MqttSend) (error : BrokerError)
  | accepted (send : MqttSend)
  /-- A send has gone on behind its accepted publish, and has returned. -/
  | returned (send : MqttSend) (receipt : Receipt)
  | acknowledged (send : MqttSend)
  | flushBegun
  | flushEnded (answer : Except BrokerError Unit)

/-- An MQTT broker and what is under way. -/
structure MqttExchange where
  broker : MqttBroker := {}
  /-- The sends begun so far. -/
  numbered : Nat := 0
  /-- The sends whose publish the client has not answered. -/
  publishing : List MqttSend := []
  /-- The sends that have not gone on since their publish was accepted. -/
  accepted : List MqttSend := []
  /-- The accepted publishes that have not been acknowledged. -/
  outstanding : List MqttSend := []
  /-- The flushes that wait. -/
  waiting : Nat := 0
  history : List MqttExchange.Mark := []

/-- What can happen. -/
inductive MqttExchange.Event where
  | send (record : Record)
  /-- The client accepts the publish at this place. -/
  | accept (place : Nat)
  /-- The client refuses it. -/
  | refuse (place : Nat)
  /-- The accepted send at this place goes on. -/
  | resume (place : Nat)
  /-- The outstanding publish at this place is acknowledged. -/
  | acknowledge (place : Nat)
  | flush
  /-- A waiting flush looks. -/
  | look
  /-- From now on nobody receives acknowledgements. -/
  | stop

namespace MqttExchange

/-- One event. -/
def step (t : MqttExchange) : Event → MqttExchange
  | .send record =>
    let send : MqttSend := ⟨t.numbered, record⟩
    { t with
      broker := t.broker.beginSend
      numbered := t.numbered + 1
      publishing := t.publishing ++ [send]
      history := t.history ++ [.begun send] }
  | .accept place => match t.publishing[place]? with
    | none => t
    | some send => { t with
      publishing := t.publishing.eraseIdx place
      accepted := t.accepted ++ [send]
      outstanding := t.outstanding ++ [send]
      history := t.history ++ [.accepted send] }
  | .refuse place => match t.publishing[place]? with
    | none => t
    | some send => { t with
      broker := t.broker.refused
      publishing := t.publishing.eraseIdx place
      history := t.history ++ [.refused send MqttBroker.refusal] }
  | .resume place => match t.accepted[place]? with
    | none => t
    | some send =>
      let (receipt, broker) := t.broker.accepted send.record
      { t with
        broker
        accepted := t.accepted.eraseIdx place
        history := t.history ++ [.returned send receipt] }
  | .acknowledge place => match t.outstanding[place]? with
    | none => t
    | some send =>
      if t.broker.stopped then t
      else { t with
        broker := t.broker.acknowledge
        outstanding := t.outstanding.eraseIdx place
        history := t.history ++ [.acknowledged send] }
  | .flush => match t.broker.flushFailure? with
    | some error => { t with history := t.history ++ [.flushEnded (.error error)] }
    | none => { t with waiting := t.waiting + 1, history := t.history ++ [.flushBegun] }
  | .look =>
    if 0 < t.waiting ∧ t.broker.isFlushed then
      { t with waiting := t.waiting - 1, history := t.history ++ [.flushEnded (.ok ())] }
    else t
  | .stop => { t with broker := { t.broker with stopped := true } }

/-- A run. -/
def run (t : MqttExchange) (events : List Event) : MqttExchange := events.foldl step t

/-! ## Reading a history -/

/-- The sends that have begun. -/
def begun (history : List Mark) : List MqttSend :=
  history.filterMap fun
    | .begun send => some send
    | _ => none

/-- The sends that were refused. -/
def refused (history : List Mark) : List MqttSend :=
  history.filterMap fun
    | .refused send _ => some send
    | _ => none

/-- The sends whose records were acknowledged. -/
def acknowledged (history : List Mark) : List MqttSend :=
  history.filterMap fun
    | .acknowledged send => some send
    | _ => none

/-- The sends that have returned. -/
def returned (history : List Mark) : List MqttSend :=
  history.filterMap fun
    | .returned send _ => some send
    | _ => none

/-- The offsets handed out for a partition of a topic, in the order in which they were. -/
def offsetsOf (topic : String) (partition : UInt32) (history : List Mark) : List Nat :=
  history.filterMap fun
    | .returned _ receipt =>
      if receipt.topic = topic ∧ receipt.partition = partition then some receipt.offset else none
    | _ => none

/-- The marks at which a record stops to be outstanding. -/
def Mark.ends : Mark → Bool
  | .refused _ _ => true
  | .acknowledged _ => true
  | _ => false

end MqttExchange

/-! ## Offsets -/

namespace MqttBroker

/-- An accepted record takes the next offset of its partition, and no other partition notices. -/
theorem nextOffset_accepted (b : MqttBroker) (r : Record) (topic : String) (partition : UInt32) :
    (b.accepted r).2.nextOffset topic partition
      = if (topic, partition) = (r.topic, r.partition) then b.nextOffset topic partition + 1
        else b.nextOffset topic partition := by
  unfold nextOffset accepted
  split
  · rename_i hsame
    rw [hsame, List.lookup_cons_self]
    rfl
  · rename_i hne
    have hother : ((topic, partition) == (r.topic, r.partition)) = false := beq_eq_false_iff_ne.2 hne
    -- keys are compared part by part, which decides the same as comparing them as a whole
    have hcompare : (instBEqProd : BEq (String × UInt32)) = instBEqOfDecidableEq :=
      lawful_beq_subsingleton _ _
    rw [List.lookup_cons, hother]
    dsimp only
    rw [hcompare]
    exact congrArg (·.getD 0) (lookup_without_of_ne b.offsets hne)

end MqttBroker

/-! ## Custody -/

namespace MqttExchange

/-- Where every send is. -/
structure Inv (t : MqttExchange) : Prop where
  numbers : (begun t.history).map (·.number) = List.range t.numbered
  count : t.broker.unacknowledged.count = t.publishing.length + t.outstanding.length
  records : (begun t.history).Perm
    (t.publishing ++ refused t.history ++ t.outstanding ++ acknowledged t.history)
  sends : (begun t.history).Perm
    (t.publishing ++ refused t.history ++ t.accepted ++ returned t.history)
  offsets : ∀ topic partition,
    offsetsOf topic partition t.history = List.range (t.broker.nextOffset topic partition)
  receipts : ∀ send receipt, .returned send receipt ∈ t.history →
    receipt = send.record.receipt receipt.offset

variable {t : MqttExchange}

/-- Taking out what stands at a place takes it out once. -/
theorem count_eraseIdx {l : List MqttSend} {send : MqttSend} {place : Nat} (h : l[place]? = some send)
    (x : MqttSend) : l.count x = (l.eraseIdx place).count x + [send].count x := by
  rw [(perm_eraseIdx h).count_eq x, ← List.count_append]
  exact (List.perm_append_singleton send _).symm.count_eq x

theorem length_eraseIdx {l : List MqttSend} {send : MqttSend} {place : Nat} (h : l[place]? = some send) :
    l.length = (l.eraseIdx place).length + 1 := (perm_eraseIdx h).length_eq

/-- As long as every send that leaves one place comes to another, all that have begun are somewhere: `p`
and `q` lose and gain sends, the other places only gain them. -/
theorem perm_moved {b p r q a p' q' b₁ r₁ a₁ : List MqttSend} (h : b.Perm (p ++ r ++ q ++ a))
    (hmove : ∀ x, b₁.count x + (p.count x + q.count x)
      = p'.count x + r₁.count x + q'.count x + a₁.count x) :
    (b ++ b₁).Perm (p' ++ (r ++ r₁) ++ q' ++ (a ++ a₁)) := by
  refine List.perm_iff_count.2 fun x => ?_
  have hold := h.count_eq x
  have hmoved := hmove x
  simp only [List.count_append] at hold ⊢
  omega

theorem begun_append (h h' : List Mark) : begun (h ++ h') = begun h ++ begun h' := List.filterMap_append

theorem refused_append (h h' : List Mark) : refused (h ++ h') = refused h ++ refused h' :=
  List.filterMap_append

theorem acknowledged_append (h h' : List Mark) :
    acknowledged (h ++ h') = acknowledged h ++ acknowledged h' := List.filterMap_append

theorem returned_append (h h' : List Mark) : returned (h ++ h') = returned h ++ returned h' :=
  List.filterMap_append

theorem offsetsOf_append (topic : String) (partition : UInt32) (h h' : List Mark) :
    offsetsOf topic partition (h ++ h') = offsetsOf topic partition h ++ offsetsOf topic partition h' :=
  List.filterMap_append

/-- A mark that is no return hands out no offset. -/
theorem Inv.offsets_keep (h : Inv t) {mark : Mark} (hmark : ∀ send receipt, mark ≠ .returned send receipt)
    (topic : String) (partition : UInt32) : offsetsOf topic partition (t.history ++ [mark])
      = List.range (t.broker.nextOffset topic partition) := by
  have hnone : offsetsOf topic partition [mark] = [] := by
    cases mark with
    | returned send receipt => exact absurd rfl (hmark send receipt)
    | begun | refused | accepted | acknowledged | flushBegun | flushEnded => rfl
  rw [offsetsOf_append, hnone, List.append_nil, h.offsets topic partition]

theorem Inv.receipts_keep (h : Inv t) {mark : Mark}
    (hmark : ∀ send receipt, mark ≠ .returned send receipt) (send : MqttSend) (receipt : Receipt)
    (hmem : .returned send receipt ∈ t.history ++ [mark]) :
    receipt = send.record.receipt receipt.offset := by
  rcases List.mem_append.1 hmem with hold | hnew
  · exact h.receipts send receipt hold
  · exact absurd (List.mem_singleton.1 hnew).symm (hmark send receipt)

/-- One more mark keeps custody as long as every send that leaves one place comes to another. -/
theorem Inv.move (h : Inv t) {t' : MqttExchange} {mark : Mark} (hhistory : t'.history = t.history ++ [mark])
    (hnumbers : List.range t.numbered ++ (begun [mark]).map (·.number) = List.range t'.numbered)
    (hcount : t'.broker.unacknowledged.count = t'.publishing.length + t'.outstanding.length)
    (hrecords : ∀ x, (begun [mark]).count x + (t.publishing.count x + t.outstanding.count x)
      = t'.publishing.count x + (refused [mark]).count x + t'.outstanding.count x
        + (acknowledged [mark]).count x)
    (hsends : ∀ x, (begun [mark]).count x + (t.publishing.count x + t.accepted.count x)
      = t'.publishing.count x + (refused [mark]).count x + t'.accepted.count x
        + (returned [mark]).count x)
    (hoffsets : ∀ topic partition, offsetsOf topic partition (t.history ++ [mark])
      = List.range (t'.broker.nextOffset topic partition))
    (hreceipts : ∀ send receipt, .returned send receipt ∈ t.history ++ [mark] →
      receipt = send.record.receipt receipt.offset) : Inv t' where
  numbers := by rw [hhistory, begun_append, List.map_append, h.numbers, hnumbers]
  count := hcount
  records := by
    rw [hhistory, begun_append, refused_append, acknowledged_append]
    exact perm_moved h.records hrecords
  sends := by
    rw [hhistory, begun_append, refused_append, returned_append]
    exact perm_moved h.sends hsends
  offsets := by
    rw [hhistory]
    exact hoffsets
  receipts := by
    rw [hhistory]
    exact hreceipts

/-! ## Steps -/

/-- A send begins. -/
theorem Inv.send (h : Inv t) (record : Record) : Inv (t.step (.send record)) := by
  refine h.move rfl ?_ ?_ (fun x => ?_) (fun x => ?_) (h.offsets_keep (by simp))
    (h.receipts_keep (by simp))
  · exact List.range_succ.symm
  · have hcount := h.count
    simp only [step, MqttBroker.beginSend, InFlight.start, List.length_append, List.length_singleton]
    omega
  · simp only [step, begun, refused, acknowledged, List.filterMap, List.count_append, List.count_nil]
    omega
  · simp only [step, begun, refused, returned, List.filterMap, List.count_append, List.count_nil]
    omega

/-- The client accepts a publish: its send is to go on, and its record is outstanding. -/
theorem Inv.accept (h : Inv t) (place : Nat) : Inv (t.step (.accept place)) := by
  simp only [step]
  split
  · exact h
  rename_i send hget
  refine h.move rfl (List.append_nil _) ?_ (fun x => ?_) (fun x => ?_) (h.offsets_keep (by simp))
    (h.receipts_keep (by simp))
  · have hcount := h.count
    have hlength := length_eraseIdx hget
    simp only [List.length_append, List.length_singleton]
    omega
  · have hmove := count_eraseIdx hget x
    simp only [begun, refused, acknowledged, List.filterMap, List.count_append, List.count_nil]
    omega
  · have hmove := count_eraseIdx hget x
    simp only [begun, refused, returned, List.filterMap, List.count_append, List.count_nil]
    omega

/-- The client refuses a publish. -/
theorem Inv.refuse (h : Inv t) (place : Nat) : Inv (t.step (.refuse place)) := by
  simp only [step]
  split
  · exact h
  rename_i send hget
  refine h.move rfl (List.append_nil _) ?_ (fun x => ?_) (fun x => ?_) (h.offsets_keep (by simp))
    (h.receipts_keep (by simp))
  · have hcount := h.count
    have hlength := length_eraseIdx hget
    simp only [MqttBroker.refused, InFlight.finish]
    omega
  · have hmove := count_eraseIdx hget x
    simp only [begun, refused, acknowledged, List.filterMap, List.count_nil]
    omega
  · have hmove := count_eraseIdx hget x
    simp only [begun, refused, returned, List.filterMap, List.count_nil]
    omega

/-- An accepted send goes on and takes the next offset of its partition. -/
theorem Inv.resume (h : Inv t) (place : Nat) : Inv (t.step (.resume place)) := by
  simp only [step]
  split
  · exact h
  rename_i send hget
  refine h.move rfl (List.append_nil _) h.count (fun x => ?_) (fun x => ?_) (fun topic partition => ?_)
    (fun other receipt hmem => ?_)
  · simp only [begun, refused, acknowledged, List.filterMap, List.count_nil]
    omega
  · have hmove := count_eraseIdx hget x
    simp only [begun, refused, returned, List.filterMap, List.count_nil]
    omega
  · rw [offsetsOf_append, h.offsets topic partition, MqttBroker.nextOffset_accepted]
    split
    · rename_i hsame
      obtain ⟨rfl, rfl⟩ := Prod.mk.inj hsame
      simp [offsetsOf, MqttBroker.accepted, Record.receipt, List.range_succ]
    · rename_i hother
      have hnone : ¬ (send.record.topic = topic ∧ send.record.partition = partition) :=
        fun hsame => hother (by rw [hsame.1, hsame.2])
      simp [offsetsOf, MqttBroker.accepted, Record.receipt, hnone]
  · rcases List.mem_append.1 hmem with hold | hnew
    · exact h.receipts other receipt hold
    · obtain ⟨rfl, rfl⟩ := MqttExchange.Mark.returned.inj (List.mem_singleton.1 hnew)
      rfl

/-- An outstanding record is acknowledged. -/
theorem Inv.acknowledge (h : Inv t) (place : Nat) : Inv (t.step (.acknowledge place)) := by
  simp only [step]
  split
  · exact h
  rename_i send hget
  split
  · exact h
  refine h.move rfl (List.append_nil _) ?_ (fun x => ?_) (fun x => ?_) (h.offsets_keep (by simp))
    (h.receipts_keep (by simp))
  · have hcount := h.count
    have hlength := length_eraseIdx hget
    simp only [MqttBroker.acknowledge, InFlight.finish]
    omega
  · have hmove := count_eraseIdx hget x
    simp only [begun, refused, acknowledged, List.filterMap, List.count_nil]
    omega
  · simp only [begun, refused, returned, List.filterMap, List.count_nil]
    omega

/-- A mark about a flush says nothing of sends. -/
theorem Inv.note (h : Inv t) (waiting : Nat) {mark : Mark} (hbegun : begun [mark] = [])
    (hrefused : refused [mark] = []) (hacknowledged : acknowledged [mark] = [])
    (hreturned : ∀ send receipt, mark ≠ .returned send receipt) :
    Inv { t with waiting, history := t.history ++ [mark] } := by
  have hnone : returned [mark] = [] := by
    cases mark with
    | returned send receipt => exact absurd rfl (hreturned send receipt)
    | begun | refused | accepted | acknowledged | flushBegun | flushEnded => rfl
  refine h.move rfl ?_ h.count (fun x => ?_) (fun x => ?_) (h.offsets_keep hreturned)
    (h.receipts_keep hreturned)
  · rw [hbegun]
    exact List.append_nil _
  · simp [hbegun, hrefused, hacknowledged]
  · simp [hbegun, hrefused, hnone]

/-! ## Runs -/

theorem inv_start : Inv {} where
  numbers := rfl
  count := rfl
  records := List.Perm.refl _
  sends := List.Perm.refl _
  offsets := fun _ _ => rfl
  receipts := fun _ _ h => absurd h List.not_mem_nil

/-- **Step**: every event keeps custody of the sends. -/
theorem inv_step (h : Inv t) (e : Event) : Inv (t.step e) := by
  cases e with
  | send record => exact h.send record
  | accept place => exact h.accept place
  | refuse place => exact h.refuse place
  | resume place => exact h.resume place
  | acknowledge place => exact h.acknowledge place
  | flush =>
    simp only [step]
    split
    · exact h.note _ rfl rfl rfl (by simp)
    · exact h.note _ rfl rfl rfl (by simp)
  | look =>
    simp only [step]
    split
    · exact h.note _ rfl rfl rfl (by simp)
    · exact h
  | stop => exact ⟨h.numbers, h.count, h.records, h.sends, h.offsets, h.receipts⟩

/-- **Run**: every run keeps custody of the sends. -/
theorem inv_run (h : Inv t) (events : List Event) : Inv (t.run events) := by
  induction events generalizing t with
  | nil => exact h
  | cons e rest ih => exact ih (inv_step h e)

/-! ## Accounts -/

/-- What a mark says about the moment at which it is made. -/
def Mark.Timely (t : MqttExchange) : Mark → Prop
  | .refused send _ => send ∈ t.publishing
  | .acknowledged send => send ∈ t.outstanding
  | .flushEnded (.ok ()) => t.broker.isFlushed = true
  | .flushEnded (.error error) => t.broker.flushFailure? = some error
  | _ => True

/-- Every mark is made at its time. -/
theorem timely_of_step {e : Event} {mark : Mark} (h : (t.step e).history = t.history ++ [mark]) :
    mark.Timely t := by
  have hsame : t.history ≠ t.history ++ [mark] := by simp
  have hlast : ∀ {other : Mark}, t.history ++ [other] = t.history ++ [mark] → other = mark :=
    fun heq => List.singleton_inj.1 (List.append_cancel_left heq)
  cases e with
  | send record =>
    obtain rfl := hlast h
    trivial
  | accept place | resume place =>
    simp only [step] at h
    split at h
    · exact absurd h hsame
    · obtain rfl := hlast h
      trivial
  | refuse place =>
    simp only [step] at h
    split at h
    · exact absurd h hsame
    · rename_i send hget
      obtain rfl := hlast h
      exact List.mem_of_getElem? hget
  | acknowledge place =>
    simp only [step] at h
    split at h
    · exact absurd h hsame
    · rename_i send hget
      split at h
      · exact absurd h hsame
      · obtain rfl := hlast h
        exact List.mem_of_getElem? hget
  | flush =>
    simp only [step] at h
    split at h
    · rename_i error herror
      obtain rfl := hlast h
      exact herror
    · obtain rfl := hlast h
      trivial
  | look =>
    simp only [step] at h
    split at h
    · rename_i hidle
      obtain rfl := hlast h
      exact hidle.2
    · exact absurd h hsame
  | stop => exact absurd h hsame

/-- The accounts of a broker at work are exact. -/
structure Exact (t : MqttExchange) : Prop where
  /-- The counter is the sends begun less those refused and those acknowledged. -/
  balance : t.broker.unacknowledged.count + (refused t.history).length
    + (acknowledged t.history).length = (begun t.history).length
  /-- Whatever takes a record off the counter finds it above zero. -/
  positive : ∀ e mark, (t.step e).history = t.history ++ [mark] → mark.ends = true →
    0 < t.broker.unacknowledged.count
  /-- A flush ends well only at a moment when the counter is zero: whatever has begun by then was refused
  or acknowledged. -/
  flushed : ∀ e, (t.step e).history = t.history ++ [.flushEnded (.ok ())] →
    t.broker.unacknowledged.count = 0
    ∧ ∀ send ∈ begun t.history, send ∈ refused t.history ∨ send ∈ acknowledged t.history
  /-- It fails only if records are outstanding for good, and says how many. -/
  failed : ∀ e error, (t.step e).history = t.history ++ [.flushEnded (.error error)] →
    t.broker.stopped = true ∧ 0 < t.broker.unacknowledged.count
    ∧ error = .flush ("event loop stopped with " ++ Decimal.text t.broker.unacknowledged.count
      ++ " unacknowledged records")
  /-- The offsets of a partition are 0, 1, 2 and so on, in the order in which they are handed out. -/
  offsets : ∀ topic partition, offsetsOf topic partition t.history
    = List.range (offsetsOf topic partition t.history).length
  /-- An offset is handed out in the receipt of a record of its partition. -/
  receipts : ∀ send receipt, .returned send receipt ∈ t.history →
    receipt = send.record.receipt receipt.offset
  /-- No send is handed two offsets, and none that was refused is handed one. -/
  once : (refused t.history ++ returned t.history).Nodup
  /-- Every send that is not under way was refused or handed its offset. -/
  answered : ∀ send ∈ begun t.history, send ∈ t.publishing ++ t.accepted
    ∨ send ∈ refused t.history ++ returned t.history

/-- Sends are told apart by their numbers. -/
theorem Inv.nodup (h : Inv t) : (begun t.history).Nodup := by
  refine List.Nodup.of_map (·.number) ?_
  rw [h.numbers]
  exact List.nodup_range

/-- **Accounts**: custody of the sends makes the accounts exact. -/
theorem Inv.exact (h : Inv t) : Exact t where
  balance := by
    have hcount := h.count
    have hlength := h.records.length_eq
    simp only [List.length_append] at hlength
    omega
  positive := by
    intro e mark hstep hends
    have htimely := timely_of_step hstep
    have hcount := h.count
    cases mark with
    | refused send error =>
      have hlength := List.length_pos_of_mem htimely
      omega
    | acknowledged send =>
      have hlength := List.length_pos_of_mem htimely
      omega
    | begun | accepted | returned | flushBegun | flushEnded => exact absurd hends (by simp [Mark.ends])
  flushed := by
    intro e hstep
    have hidle : t.broker.isFlushed = true := timely_of_step hstep
    have hzero : t.broker.unacknowledged.count = 0 := by
      simpa [MqttBroker.isFlushed, InFlight.isIdle] using hidle
    refine ⟨hzero, fun send hsend => ?_⟩
    have hcount := h.count
    have hpublishing : t.publishing = [] := List.eq_nil_of_length_eq_zero (by omega)
    have houtstanding : t.outstanding = [] := List.eq_nil_of_length_eq_zero (by omega)
    simpa [hpublishing, houtstanding] using h.records.mem_iff.1 hsend
  failed := by
    intro e error hstep
    have hfailure : t.broker.flushFailure? = some error := timely_of_step hstep
    unfold MqttBroker.flushFailure? at hfailure
    split at hfailure
    · rename_i hstopped
      obtain ⟨hstopped, hbusy⟩ := Bool.and_eq_true_iff.1 hstopped
      refine ⟨hstopped, ?_, (Option.some.inj hfailure).symm⟩
      simpa [MqttBroker.isFlushed, InFlight.isIdle, Nat.pos_iff_ne_zero] using hbusy
    · exact absurd hfailure (by simp)
  offsets := by
    intro topic partition
    rw [h.offsets topic partition, List.length_range]
  receipts := h.receipts
  once := by
    have hnodup := h.sends.nodup_iff.1 h.nodup
    refine hnodup.sublist ?_
    rw [List.append_assoc t.publishing, List.append_assoc, List.append_assoc]
    refine (List.Sublist.append_left ?_ _).trans (List.sublist_append_right t.publishing _)
    exact List.sublist_append_right _ _
  answered := by
    intro send hsend
    have hplace := h.sends.mem_iff.1 hsend
    simp only [List.mem_append] at hplace ⊢
    tauto

/-- **Accounting**: whatever the client answers, and in whatever order publishes are answered and
acknowledged and sends go on, the accounts of a new broker are exact. -/
theorem exact_accounts (events : List Event) : Exact (({} : MqttExchange).run events) :=
  (inv_run inv_start events).exact

/-- A record may be acknowledged before its send goes on: it was counted, and the send takes its offset. -/
example :
    let t := ({} : MqttExchange).run
      [.send ⟨"events", 2, [], []⟩, .accept 0, .acknowledge 0, .flush, .look, .resume 0]
    t.broker.unacknowledged.count = 0 ∧ t.waiting = 0 ∧ offsetsOf "events" 2 t.history = [0] := by
  decide

end MqttExchange

end FieldBridge
