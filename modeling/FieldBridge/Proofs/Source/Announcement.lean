/-
  What a change of a value says.

  1. **Specification** — `Server.announcement`: the text of the node, the wording of its naming attributes
     in the table of the server, and the wording of the new value.  What does not read good, and
     everything while readings fail, is empty.

  2. **Task** — the task of a change gives exactly this, since answers belong to the requested attributes
     by position and the texts of the change win over those read (`payload_changeEvent`).
-/

import FieldBridge.Message.Basic
import FieldBridge.Server.Link
import FieldBridge.Source.Task

namespace FieldBridge

/-! ## Specification -/

/-- How a server's table words an attribute of a node. -/
def Server.wording (s : Server) (node : NodeId) (a : Attribute) : String :=
  if s.failReads then ""
  else ((a.id?.bind fun id => (s.valueOf ⟨node, id⟩).good?).map a.format).getD ""

/-- What has to be published when the value of a node, known by a text, has changed. -/
def Server.announcement (s : Server) (node : NodeId) (text : String) (value : Value) : Payload where
  nodeId := text
  browseName := s.wording node .browseName
  displayName := s.wording node .displayName
  description := s.wording node .description
  value := Attribute.value.format value

/-! ## Events -/

namespace AttributeSet

theorem getOrEmpty_merge_of_none {s other : AttributeSet} {a : Attribute} (h : s.get? a = none) :
    (s.merge other).getOrEmpty a = other.getOrEmpty a := by
  simp [getOrEmpty, get?_merge, h]

theorem getOrEmpty_insert_of_ne {s : AttributeSet} {a b : Attribute} (h : a ≠ b) (text : String) :
    (s.insert a text).getOrEmpty b = s.getOrEmpty b := by
  simp [getOrEmpty, get?_insert, h]

theorem getOrEmpty_insert_self (s : AttributeSet) (a : Attribute) (text : String) :
    (s.insert a text).getOrEmpty a = text := by
  simp [getOrEmpty, get?_insert]

/-- A set that has an attribute is not empty. -/
theorem isEmpty_insert (s : AttributeSet) (a : Attribute) (text : String) :
    (s.insert a text).isEmpty = false :=
  isEmpty_of_get? (a := a) (by rw [get?_insert, if_pos rfl])

end AttributeSet

namespace Reading

variable {s : Server} {node : NodeId} {event : AttributeSet} {a b : Attribute}

/-- An answer is put in under its own attribute, if it is good. -/
theorem get?_take (event : AttributeSet) (b a : Attribute) (data : DataValue) :
    (take event b data).get? a
      = ((if b = a then data.good? else none).map a.format).or (event.get? a) := by
  unfold take
  by_cases h : b = a
  · subst h
    cases data.good? with
    | none => simp
    | some v => simp [AttributeSet.get?_insert]
  · cases data.good? with
    | none => simp [h]
    | some v => simp [AttributeSet.get?_insert, h]

theorem get?_take_of_ne (h : a ≠ b) (data : DataValue) : (take event a data).get? b = event.get? b := by
  rw [get?_take, if_neg h]
  rfl

/-- A good answer is put in; another one leaves what was not there empty. -/
theorem getOrEmpty_take_self (h : event.get? a = none) (data : DataValue) :
    (take event a data).getOrEmpty a = (data.good?.map a.format).getD "" := by
  rw [AttributeSet.getOrEmpty, get?_take, if_pos rfl, h, Option.or_none]

/-- The answers of a server's table end up under the attributes that they were asked for. -/
theorem getOrEmpty_fill (s : Server) (node : NodeId) {event : AttributeSet}
    {requested : List (Attribute × AttributeId)} (hnodup : (requested.map (·.1)).Nodup)
    (hnew : ∀ p ∈ requested, event.get? p.1 = none) (a : Attribute) :
    (fill event requested (requested.map fun p => s.valueOf ⟨node, p.2⟩)).getOrEmpty a
      = match requested.lookup a with
        | some id => ((s.valueOf ⟨node, id⟩).good?.map a.format).getD ""
        | none => event.getOrEmpty a := by
  induction requested generalizing event with
  | nil => rfl
  | cons p rest ih =>
    obtain ⟨own, id⟩ := p
    obtain ⟨hown, hrest⟩ := List.nodup_cons.1 hnodup
    have hlater : ∀ q ∈ rest, (take event own (s.valueOf ⟨node, id⟩)).get? q.1 = none := by
      intro q hq
      have hmem : q.1 ∈ rest.map (·.1) := List.mem_map_of_mem hq
      have hne : own ≠ q.1 := fun heq => hown (heq ▸ hmem)
      rw [get?_take_of_ne hne]
      exact hnew q (List.mem_cons_of_mem _ hq)
    rw [List.map_cons, fill, ih hrest hlater, List.lookup_cons]
    by_cases ha : a = own
    · -- nothing behind it is about the same attribute
      subst ha
      have hnone : rest.lookup a = none := by
        refine List.lookup_eq_none_iff.2 fun q hq => bne_iff_ne.2 fun heq => ?_
        have hmem : q.1 ∈ rest.map (·.1) := List.mem_map_of_mem hq
        exact hown (heq ▸ hmem)
      rw [hnone, beq_self_eq_true]
      exact getOrEmpty_take_self (hnew _ List.mem_cons_self) _
    · have hne : (a == own) = false := beq_eq_false_iff_ne.2 ha
      rw [hne]
      cases rest.lookup a with
      | some id' => rfl
      | none =>
        show ((take event own _).get? a).getD "" = (event.get? a).getD ""
        rw [get?_take_of_ne (Ne.symm ha)]

/-- A reading of the naming attributes says how the table words them. -/
theorem getOrEmpty_event {text : String} (hreads : s.failReads = false) (time : Instant)
    (ha : a ∈ Attribute.descriptive) :
    let r : Reading := ⟨text, node, addressed Attribute.descriptive, false⟩
    (r.event time (r.request.map s.valueOf)).getOrEmpty a = s.wording node a := by
  intro r
  have hvalues : r.request.map s.valueOf = r.requested.map fun p => s.valueOf ⟨node, p.2⟩ := by
    rw [request, List.map_map]
    rfl
  have hother : Attribute.nodeId ≠ a := by
    intro heq
    subst heq
    exact absurd ha (by decide)
  have hlookup : (addressed Attribute.descriptive).lookup a = a.id? ∧ a.id?.isSome := by
    cases a <;> first | exact ⟨rfl, rfl⟩ | exact absurd ha (by decide)
  obtain ⟨id, hid⟩ := Option.isSome_iff_exists.1 hlookup.2
  have hnodup : ((addressed Attribute.descriptive).map (·.1)).Nodup := by decide
  have hfill := getOrEmpty_fill s node hnodup (fun p _ => AttributeSet.get?_empty p.1) a
  rw [hlookup.1, hid] at hfill
  show ((fill .empty r.requested (r.request.map s.valueOf)).insert .nodeId text).getOrEmpty a = _
  rw [AttributeSet.getOrEmpty_insert_of_ne hother, hvalues, hfill, Server.wording, hreads, hid]
  rfl

end Reading

/-! ## The task of a change -/

/-- The event of a change names the node by its text and has the new value; the rest is what was read. -/
theorem payload_changeEvent (text : String) (read : AttributeSet) (value : Value)
    (hread : read.nodeId = none ∨ read.nodeId = some text) :
    (ReadTask.changeEvent text read (.good value)).2.isEmpty = false
    ∧ Payload.ofEvent (ReadTask.changeEvent text read (.good value)).2
      = ⟨text, read.getOrEmpty .browseName, read.getOrEmpty .displayName,
        read.getOrEmpty .description, Attribute.value.format value⟩ := by
  have hgood : (DataValue.good value).good? = some value := by
    have hstatus : Status.good.isGood = true := by decide
    simp [DataValue.good, DataValue.good?, hstatus]
  have hevent : (ReadTask.changeEvent text read (.good value)).2
      = ((AttributeSet.empty.insert .nodeId text).merge read).insert .value
        (Attribute.value.format value) := by
    simp [ReadTask.changeEvent, hgood]
  rw [hevent]
  refine ⟨AttributeSet.isEmpty_insert _ _ _, ?_⟩
  have hnode : ((AttributeSet.empty.insert .nodeId text).merge read).getOrEmpty .nodeId = text := by
    have hown : read.get? .nodeId = read.nodeId := rfl
    rw [AttributeSet.getOrEmpty, AttributeSet.get?_merge, hown]
    rcases hread with hnone | hsome
    · rw [hnone]
      rfl
    · rw [hsome]
      rfl
  simp only [Payload.ofEvent, AttributeSet.getOrEmpty_insert_self]
  rw [AttributeSet.getOrEmpty_insert_of_ne (by decide), hnode,
    AttributeSet.getOrEmpty_insert_of_ne (by decide), AttributeSet.getOrEmpty_merge_of_none rfl,
    AttributeSet.getOrEmpty_insert_of_ne (by decide), AttributeSet.getOrEmpty_merge_of_none rfl,
    AttributeSet.getOrEmpty_insert_of_ne (by decide), AttributeSet.getOrEmpty_merge_of_none rfl]

/-- **A change says what the table says**: the task of a change, once its reading is answered by an open
session, gives an event with the announcement. -/
theorem event_ofChange {s : Server} (hopen : s.closed = false) (node : NodeId) (text : String)
    (value : Value) (time : Instant) :
    let r : Reading := ⟨text, node, Reading.addressed Attribute.descriptive, false⟩
    ∃ notices event, (ReadTask.ofChange ⟨text, .good value⟩).event
        (r.complete time (s.read r.request).1).2 = (notices, some event)
      ∧ event.isEmpty = false ∧ Payload.ofEvent event = s.announcement node text value := by
  intro r
  cases hreads : s.failReads with
  | true =>
    have hread : (s.read r.request).1 = .error (.service "read failed") := by
      simp [Server.read, hopen, hreads]
    obtain ⟨hfull, hpayload⟩ := payload_changeEvent text .empty value (Or.inl rfl)
    rw [hread]
    refine ⟨_, _, rfl, hfull, hpayload.trans ?_⟩
    simp [Server.announcement, Server.wording, hreads, AttributeSet.getOrEmpty]
  | false =>
    have hread : (s.read r.request).1 = .ok (r.request.map s.valueOf) := by
      simp only [Server.read, hopen, hreads]
      rfl
    obtain ⟨hfull, hpayload⟩ := payload_changeEvent text
      (r.event time (r.request.map s.valueOf)) value (Or.inr rfl)
    rw [hread]
    refine ⟨_, _, rfl, hfull, hpayload.trans ?_⟩
    rw [Reading.getOrEmpty_event hreads time (by decide),
      Reading.getOrEmpty_event hreads time (by decide),
      Reading.getOrEmpty_event hreads time (by decide)]
    rfl

end FieldBridge
