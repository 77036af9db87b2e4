/-
  Readings, position by position.

  A reading asks for its attributes in one batch, the synthetic ones left out, and takes the answers by
  position.  The session decides how many there are and what they say.

  1. **Specification** — what is asked for (`batch`), which answer counts for an attribute (`LastAnswer`:
     the last good one with a value at a place of the attribute), and what the event has to say then
     (`Tells`).

  2. **Answers** — filling an event writes the answers that count one after another, so of those for an
     attribute the last is left (`get?_fill`).

  3. **Readings** (`aligned`) — for any session, whatever it answers.
-/

import Mathlib.Data.List.Basic
import FieldBridge.Proofs.Source.Announcement
import FieldBridge.Source.Task

namespace FieldBridge

/-! ## Specification -/

namespace Reading

/-- The attributes to ask for: all but the synthetic one. -/
def wanted (attributes : List Attribute) : List Attribute := attributes.filter (· ≠ .timestamp)

/-- The items that ask for them. -/
def batch (node : NodeId) (attributes : List Attribute) : List ReadItem :=
  (wanted attributes).filterMap fun a => a.id?.map (⟨node, ·⟩)

/-- The answer at a place is for an attribute, and is good with a value. -/
def AnsweredAt (attributes : List Attribute) (values : List DataValue) (a : Attribute) (place : Nat)
    (v : Value) : Prop :=
  (wanted attributes)[place]? = some a
    ∧ ∃ data, values[place]? = some data ∧ data.status.isGood = true ∧ data.value = some v

/-- The last good value that was answered for an attribute. -/
def LastAnswer (attributes : List Attribute) (values : List DataValue) (a : Attribute) (v : Value) : Prop :=
  ∃ place, AnsweredAt attributes values a place v
    ∧ ∀ later w, place < later → ¬ AnsweredAt attributes values a later w

/-- What an event says of a node after an answer. -/
structure Tells (text : String) (attributes : List Attribute) (time : Instant) (values : List DataValue)
    (event : AttributeSet) : Prop where
  node : event.get? .nodeId = some text
  timestamp : event.get? .timestamp
    = if .timestamp ∈ attributes then some (String.ofList time.millisText) else none
  present : ∀ a, a ≠ .nodeId → a ≠ .timestamp →
    ((event.get? a).isSome = true ↔ ∃ place v, AnsweredAt attributes values a place v)
  word : ∀ a, a ≠ .nodeId → a ≠ .timestamp → ∀ x,
    event.get? a = some x ↔ ∃ v, LastAnswer attributes values a v ∧ x = a.format v

end Reading

namespace Session

open Reading

variable {σ : Type} (session : Session σ) (connected : Bool) (text : String) (attributes : List Attribute)
  (s : σ)

/-- The session with a list of the batches that it is asked for. -/
def recorded : Session (σ × List (List ReadItem)) where
  read request := fun (s, asked) =>
    let (answer, s) := session.read request s
    (answer, s, asked ++ [request])
  time := fun (s, _) => session.time s

/-- The batches that a reading asks for. -/
def asks : List (List ReadItem) := (attempt session.recorded connected text attributes (s, [])).2.2.2

/-- What a reading gives. -/
def gives : Except ReadError AttributeSet := (attempt session connected text attributes s).2.1

/-- What a quiet reading gives. -/
def givesQuietly : AttributeSet := (quietly session connected text attributes s).2.1

/-- The answer to the attributes of a node; where there are none to ask for, it is empty. -/
def answer (node : NodeId) : Except TransportError (List DataValue) × σ :=
  if batch node attributes = [] then (.ok [], s) else session.read (batch node attributes) s

/-- A reading asks for at most one batch, and takes what is answered to it by position. -/
structure Aligned : Prop where
  unconnected : connected = false →
    session.asks connected text attributes s = []
      ∧ session.gives connected text attributes s = .error .notConnected
  unparsed : ∀ e, connected = true → NodeId.parse text = .error e →
    session.asks connected text attributes s = []
      ∧ session.gives connected text attributes s = .error (.invalidNode text e)
  asked : ∀ node, connected = true → NodeId.parse text = .ok node →
    session.asks connected text attributes s
      = if batch node attributes = [] then [] else [batch node attributes]
  /-- A batch has one item for each attribute to ask for, in their order. -/
  batched : ∀ node, (batch node attributes).map some
    = (wanted attributes).map fun a => a.id?.map (⟨node, ·⟩)
  failed : ∀ node e, connected = true → NodeId.parse text = .ok node →
    (session.answer attributes s node).1 = .error e →
    session.gives connected text attributes s = .error (.transport e)
  answered : ∀ node values, connected = true → NodeId.parse text = .ok node →
    (session.answer attributes s node).1 = .ok values →
    ∃ event, session.gives connected text attributes s = .ok event
      ∧ session.givesQuietly connected text attributes s = event
      ∧ Tells text attributes (session.time (session.answer attributes s node).2) values event
  empty : (session.givesQuietly connected text attributes s).isEmpty = true ↔
    connected = false ∨ (∃ e, NodeId.parse text = .error e)
      ∨ ∃ node e, NodeId.parse text = .ok node ∧ (session.answer attributes s node).1 = .error e

end Session

namespace Reading

/-! ## Answers -/

/-- The values that count for an attribute, in order. -/
def hits (a : Attribute) (requested : List (Attribute × AttributeId)) (values : List DataValue) :
    List Value :=
  (requested.zip values).filterMap fun p => if p.1.1 = a then p.2.good? else none

/-- **Answers**: the last value that counts for an attribute is left. -/
theorem get?_fill (event : AttributeSet) (requested : List (Attribute × AttributeId))
    (values : List DataValue) (a : Attribute) :
    (fill event requested values).get? a
      = ((hits a requested values).getLast?.map a.format).or (event.get? a) := by
  induction requested generalizing event values with
  | nil => rfl
  | cons first rest ih =>
    obtain ⟨b, id⟩ := first
    cases values with
    | nil => rfl
    | cons data values =>
      have hhits : hits a ((b, id) :: rest) (data :: values)
          = (if b = a then data.good? else none).toList ++ hits a rest values := by
        unfold hits
        rw [List.zip_cons_cons, List.filterMap_cons]
        dsimp only
        cases (if b = a then data.good? else none) with
        | none => rfl
        | some v => rfl
      -- the first value is left only where no later one counts
      rw [fill, ih, get?_take, hhits, List.getLast?_append, Option.map_or, Option.or_assoc]
      congr 3
      cases (if b = a then data.good? else none) with
      | none => rfl
      | some v => rfl

/-- The last of the values that a function picks from a list stands where nothing is picked behind it. -/
theorem getLast?_filterMap_eq_some {α β : Type} {f : α → Option β} {l : List α} {y : β} :
    (l.filterMap f).getLast? = some y ↔ ∃ (place : Nat) (x : α), l[place]? = some x ∧ f x = some y
      ∧ ∀ (later : Nat) (x' : α), place < later → l[later]? = some x' → f x' = none := by
  rw [List.getLast?_filterMap, List.findSome?_eq_some_iff]
  constructor
  · rintro ⟨behind, x, front, hsplit, hx, hnone⟩
    have hl : l = front.reverse ++ x :: behind.reverse := by
      rw [← List.reverse_reverse l, hsplit]
      simp
    subst hl
    refine ⟨front.length, x, by simp, hx, ?_⟩
    intro later x' hlater hx'
    obtain ⟨k, rfl⟩ := Nat.exists_eq_add_of_lt hlater
    have hbehind : behind.reverse[k]? = some x' := by
      rwa [List.getElem?_append_right (by simp; omega), List.length_reverse,
        show front.length + k + 1 - front.length = k + 1 by omega, List.getElem?_cons_succ] at hx'
    exact hnone x' (List.mem_reverse.1 (List.mem_of_getElem? hbehind))
  · rintro ⟨place, x, hplace, hx, hnone⟩
    obtain ⟨hlt, rfl⟩ := List.getElem?_eq_some_iff.1 hplace
    have hsplit : l = l.take place ++ l[place] :: l.drop (place + 1) := by
      rw [List.getElem_cons_drop, List.take_append_drop]
    refine ⟨(l.drop (place + 1)).reverse, l[place], (l.take place).reverse, ?_, hx, ?_⟩
    · exact (congrArg List.reverse hsplit).trans (by simp)
    · intro x' hx'
      obtain ⟨k, hk⟩ := List.mem_iff_getElem?.1 (List.mem_reverse.1 hx')
      rw [List.getElem?_drop] at hk
      exact hnone _ x' (by omega) hk

/-- The attributes that are addressed are the ones to ask for. -/
theorem map_addressed (attributes : List Attribute) :
    (addressed attributes).map (·.1) = wanted attributes := by
  induction attributes with
  | nil => rfl
  | cons a rest ih =>
    cases a with
    | timestamp => exact ih
    | nodeId | browseName | displayName | description | value => exact congrArg (List.cons _) ih

theorem id?_of_mem_addressed {attributes : List Attribute} {p : Attribute × AttributeId}
    (h : p ∈ addressed attributes) : p.1.id? = some p.2 := by
  obtain ⟨a, -, ha⟩ := List.mem_filterMap.1 h
  obtain ⟨id, hid, rfl⟩ := Option.map_eq_some_iff.1 ha
  exact hid

theorem map_item_addressed (node : NodeId) (attributes : List Attribute) :
    ((addressed attributes).map fun p => (⟨node, p.2⟩ : ReadItem)) = batch node attributes := by
  rw [batch, ← map_addressed, List.filterMap_map, ← List.filterMap_eq_map]
  refine List.filterMap_congr fun p hp => ?_
  simp [id?_of_mem_addressed hp]

theorem map_some_batch (node : NodeId) (attributes : List Attribute) :
    (batch node attributes).map some = (wanted attributes).map fun a => a.id?.map (⟨node, ·⟩) := by
  rw [← map_item_addressed, ← map_addressed, List.map_map, List.map_map]
  refine List.map_congr_left fun p hp => ?_
  simp [id?_of_mem_addressed hp]

/-- What counts at a place of the addressed attributes is what was answered there. -/
theorem answeredAt_iff {attributes : List Attribute} {values : List DataValue} {a : Attribute}
    {place : Nat} {v : Value} : AnsweredAt attributes values a place v
      ↔ ∃ p, ((addressed attributes).zip values)[place]? = some p
        ∧ (if p.1.1 = a then p.2.good? else none) = some v := by
  unfold AnsweredAt
  rw [← map_addressed, List.getElem?_map]
  constructor
  · rintro ⟨hwanted, data, hdata, hgood, hvalue⟩
    obtain ⟨p, hp, rfl⟩ := Option.map_eq_some_iff.1 hwanted
    refine ⟨(p, data), List.getElem?_zip_eq_some.2 ⟨hp, hdata⟩, ?_⟩
    simp [DataValue.good?, hgood, hvalue]
  · rintro ⟨p, hp, hcounts⟩
    obtain ⟨hwanted, hdata⟩ := List.getElem?_zip_eq_some.1 hp
    split at hcounts
    · rename_i hown
      refine ⟨?_, p.2, hdata, ?_⟩
      · rw [hwanted, Option.map_some, hown]
      · unfold DataValue.good? at hcounts
        split at hcounts
        · rename_i hgood
          exact ⟨hgood, hcounts⟩
        · cases hcounts
    · cases hcounts

/-- The last value that counts is the last answer. -/
theorem getLast?_hits {attributes : List Attribute} {values : List DataValue} {a : Attribute} {v : Value} :
    (hits a (addressed attributes) values).getLast? = some v ↔ LastAnswer attributes values a v := by
  unfold hits LastAnswer
  rw [getLast?_filterMap_eq_some]
  constructor
  · rintro ⟨place, p, hp, hcounts, hlast⟩
    refine ⟨place, answeredAt_iff.2 ⟨p, hp, hcounts⟩, ?_⟩
    intro later w hlater hanswered
    obtain ⟨p', hp', hcounts'⟩ := answeredAt_iff.1 hanswered
    rw [hlast later p' hlater hp'] at hcounts'
    cases hcounts'
  · rintro ⟨place, hanswered, hlast⟩
    obtain ⟨p, hp, hcounts⟩ := answeredAt_iff.1 hanswered
    refine ⟨place, p, hp, hcounts, ?_⟩
    intro later p' hlater hp'
    refine Option.eq_none_iff_forall_ne_some.2 fun w hw => ?_
    exact hlast later w hlater (answeredAt_iff.2 ⟨p', hp', hw⟩)

/-- The synthetic attribute is not asked for, so no answer is for it. -/
theorem not_lastAnswer_timestamp {attributes : List Attribute} {values : List DataValue} {v : Value} :
    ¬ LastAnswer attributes values .timestamp v := by
  rintro ⟨place, ⟨hwanted, -⟩, -⟩
  have hmem := List.mem_of_getElem? hwanted
  exact absurd (List.mem_filter.1 hmem).2 (by decide)

/-- What an answer leaves of an attribute in an event. -/
theorem get?_answered {attributes : List Attribute} {values : List DataValue} {a : Attribute} {x : String} :
    (fill .empty (addressed attributes) values).get? a = some x
      ↔ ∃ v, LastAnswer attributes values a v ∧ x = a.format v := by
  rw [get?_fill, AttributeSet.get?_empty, Option.or_none, Option.map_eq_some_iff]
  constructor
  · rintro ⟨v, hv, rfl⟩
    exact ⟨v, getLast?_hits.1 hv, rfl⟩
  · rintro ⟨v, hv, rfl⟩
    exact ⟨v, getLast?_hits.2 hv, rfl⟩

/-- A value that is answered at some place counts, so the event has the attribute. -/
theorem isSome_answered {attributes : List Attribute} {values : List DataValue} {a : Attribute} :
    ((fill .empty (addressed attributes) values).get? a).isSome = true
      ↔ ∃ place v, AnsweredAt attributes values a place v := by
  rw [Option.isSome_iff_exists]
  constructor
  · rintro ⟨x, hx⟩
    obtain ⟨v, ⟨place, hanswered, -⟩, -⟩ := get?_answered.1 hx
    exact ⟨place, v, hanswered⟩
  · rintro ⟨place, v, hanswered⟩
    obtain ⟨p, hp, hcounts⟩ := answeredAt_iff.1 hanswered
    have hmem : v ∈ hits a (addressed attributes) values :=
      List.mem_filterMap.2 ⟨p, List.mem_of_getElem? hp, hcounts⟩
    have hlast := List.getLast?_eq_some_getLast (List.ne_nil_of_mem hmem)
    exact ⟨_, get?_answered.2 ⟨_, getLast?_hits.1 hlast, rfl⟩⟩

/-! ## Readings -/

theorem get?_event (r : Reading) (time : Instant) (values : List DataValue) (a : Attribute) :
    (r.event time values).get? a
      = if a = .nodeId then some r.text
        else if a = .timestamp ∧ r.stamped = true then some (String.ofList time.millisText)
        else (fill .empty r.requested values).get? a := by
  simp only [event, AttributeSet.get?_insert, eq_comm (a := Attribute.nodeId)]
  split
  · rfl
  · split
    · rename_i hstamped
      simp [hstamped, AttributeSet.get?_insert, eq_comm (a := Attribute.timestamp)]
    · rename_i hstamped
      simp [hstamped]

/-- The reading that is done if there is a connection and the text is a node id. -/
def planned (text : String) (node : NodeId) (attributes : List Attribute) : Reading :=
  ⟨text, node, addressed attributes, attributes.contains .timestamp⟩

/-- The event after an answer says of the node what the answer does. -/
theorem tells_event (text : String) (node : NodeId) (attributes : List Attribute) (time : Instant)
    (values : List DataValue) :
    Tells text attributes time values ((planned text node attributes).event time values) where
  node := by rw [get?_event, if_pos rfl]; rfl
  timestamp := by
    rw [get?_event, if_neg (by decide)]
    by_cases hstamped : .timestamp ∈ attributes
    · rw [if_pos hstamped, if_pos ⟨rfl, List.contains_iff_mem.2 hstamped⟩]
    · -- without a stamp it would have to be an answer
      have hplain : ¬ (planned text node attributes).stamped = true :=
        fun h => hstamped (List.contains_iff_mem.1 h)
      rw [if_neg hstamped, if_neg fun h => hplain h.2]
      refine Option.eq_none_iff_forall_ne_some.2 fun x hx => ?_
      obtain ⟨v, hv, -⟩ := get?_answered.1 hx
      exact not_lastAnswer_timestamp hv
  present := by
    intro a hnode htimestamp
    rw [get?_event, if_neg hnode, if_neg fun h => htimestamp h.1]
    exact isSome_answered
  word := by
    intro a hnode htimestamp x
    rw [get?_event, if_neg hnode, if_neg fun h => htimestamp h.1]
    exact get?_answered

end Reading

namespace Session

open Reading

variable {σ : Type} (session : Session σ) (connected : Bool) (text : String) (attributes : List Attribute)
  (s : σ)

/-- A reading that can be done comes to its end with what the session answers. -/
theorem attempt_planned {node : NodeId} (hparse : NodeId.parse text = .ok node) :
    attempt session true text attributes s
      = let (answer, after) := session.answer attributes s node
        let (notices, outcome) := (planned text node attributes).complete (session.time after) answer
        (notices, outcome, after) := by
  have hplan : plan true text attributes = .ok (planned text node attributes) := by
    simp [plan, hparse, planned]
  have hrequest : (planned text node attributes).request = batch node attributes :=
    map_item_addressed node attributes
  have hempty : (planned text node attributes).requested.isEmpty = true
      ↔ batch node attributes = [] := by
    rw [← map_item_addressed, List.map_eq_nil_iff]
    exact List.isEmpty_iff
  simp only [attempt, hplan, hrequest, answer]
  by_cases hnone : batch node attributes = []
  · rw [if_pos (hempty.2 hnone), if_pos hnone]
  · rw [if_neg (mt hempty.1 hnone), if_neg hnone]

/-- It asks for its batch. -/
theorem asks_planned {node : NodeId} (hparse : NodeId.parse text = .ok node) :
    session.asks true text attributes s
      = if batch node attributes = [] then [] else [batch node attributes] := by
  rw [asks, attempt_planned session.recorded text attributes (s, []) hparse]
  unfold answer recorded
  by_cases hnone : batch node attributes = []
  · simp [hnone]
  · simp [hnone]

theorem attempt_unparsed {e : NodeId.ParseError} (hparse : NodeId.parse text = .error e) :
    attempt session true text attributes s = ([], .error (.invalidNode text e), s) := by
  simp [attempt, plan, hparse]

/-- Without an event, nothing is given quietly. -/
theorem givesQuietly_of_error {e : ReadError}
    (h : session.gives connected text attributes s = .error e) :
    session.givesQuietly connected text attributes s = .empty := by
  have hquiet : session.givesQuietly connected text attributes s
      = (quiet text (session.gives connected text attributes s)).2 := rfl
  rw [hquiet, h]
  cases e with
  | notConnected => rfl
  | invalidNode text cause => rfl
  | transport cause => rfl

theorem gives_failed {node : NodeId} {e : TransportError} (hparse : NodeId.parse text = .ok node)
    (hfailed : (session.answer attributes s node).1 = .error e) :
    session.gives true text attributes s = .error (.transport e) := by
  rw [gives, attempt_planned session text attributes s hparse]
  simp [hfailed, complete]

/-- What is given after an answer. -/
theorem gives_answered {node : NodeId} {values : List DataValue} (hparse : NodeId.parse text = .ok node)
    (hvalues : (session.answer attributes s node).1 = .ok values) :
    ∃ event, session.gives true text attributes s = .ok event
      ∧ session.givesQuietly true text attributes s = event
      ∧ Tells text attributes (session.time (session.answer attributes s node).2) values event := by
  refine ⟨_, ?_, ?_, tells_event text node attributes _ values⟩
  · rw [gives, attempt_planned session text attributes s hparse]
    simp [hvalues, complete]
  · rw [givesQuietly, quietly, attempt_planned session text attributes s hparse]
    simp [hvalues, complete, quiet]

/-- **Readings** are aligned, whatever the session answers. -/
theorem aligned : session.Aligned connected text attributes s where
  unconnected := by
    rintro rfl
    exact ⟨rfl, rfl⟩
  unparsed := by
    rintro e rfl hparse
    constructor
    · rw [asks, attempt_unparsed session.recorded text attributes _ hparse]
    · rw [gives, attempt_unparsed session text attributes s hparse]
  asked := by
    rintro node rfl hparse
    exact asks_planned session text attributes s hparse
  batched := fun node => map_some_batch node attributes
  failed := by
    rintro node e rfl hparse hfailed
    exact gives_failed session text attributes s hparse hfailed
  answered := by
    rintro node values rfl hparse hvalues
    exact gives_answered session text attributes s hparse hvalues
  empty := by
    cases connected with
    | false =>
      have hnone : session.givesQuietly false text attributes s = .empty :=
        givesQuietly_of_error session false text attributes s rfl
      simp [hnone, AttributeSet.isEmpty_empty]
    | true =>
      cases hparse : NodeId.parse text with
      | error e =>
        have hgives : session.gives true text attributes s = .error (.invalidNode text e) := by
          rw [gives, attempt_unparsed session text attributes s hparse]
        simp [givesQuietly_of_error session true text attributes s hgives, AttributeSet.isEmpty_empty]
      | ok node =>
        cases hanswer : (session.answer attributes s node).1 with
        | error e =>
          have hgives := gives_failed session text attributes s hparse hanswer
          simp [givesQuietly_of_error session true text attributes s hgives, AttributeSet.isEmpty_empty,
            hanswer]
        | ok values =>
          -- an event at least names the node, whatever the text of that is
          obtain ⟨event, -, hquietly, htells⟩ := gives_answered session text attributes s hparse hanswer
          have hfull : event.isEmpty = false := AttributeSet.isEmpty_of_get? htells.node
          simp [hquietly, hfull, hanswer]

/-- A list of answers that is too short, with a bad one; the value is asked for twice. -/
example :
    let values : List DataValue := [.good (.int 1), .good (.int 7), .bad ⟨0x80340000⟩, .good (.int 2)]
    let session : Session Unit := ⟨fun _ s => (.ok values, s), fun _ => default⟩
    (session.gives true "i=1" [.value, .timestamp, .nodeId, .browseName, .value, .description] ()).toOption.map
        (fun event => ((event.get? .value, event.get? .browseName), event.get? .nodeId))
      = some ((some "2", none), some "i=1") := by
  decide +kernel

end Session

end FieldBridge
