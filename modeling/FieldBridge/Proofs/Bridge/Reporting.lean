/-
  What a poll and a change report.

  A poll reads the polled attributes in one batch.  A change brings its value along, and only the naming
  attributes are read, in another order; the event is put together from both.

  1. **Tables** — where every answer is taken from one table, an event has what the table says of each
     requested attribute, in whatever order they were requested (`get?_fill_table`).

  2. **Tasks** — a task that need not wait reads as everyone does, and delivers what that says
     (`run_eq_read`).

  3. **Reports** (`same_event`) — so a poll and a change report the same event.  When the reading fails, the
     poll reports nothing and the change what it brought along.
-/

import FieldBridge.Proofs.Bridge.Change
import FieldBridge.Proofs.Source.Reading

namespace FieldBridge

/-! ## Tables -/

namespace Reading

/-- What a table says of an attribute. -/
def wordOf (table : AttributeId → DataValue) (a : Attribute) : Option String :=
  (a.id?.bind fun id => (table id).good?).map a.format

/-- **Tables**: answers from a table leave what it says of each attribute that was asked for. -/
theorem get?_fill_table (table : AttributeId → DataValue) (event : AttributeSet)
    (attributes : List Attribute) (a : Attribute) :
    (fill event (addressed attributes) ((addressed attributes).map fun p => table p.2)).get? a
      = (if a ∈ attributes then wordOf table a else none).or (event.get? a) := by
  induction attributes generalizing event with
  | nil => rfl
  | cons b rest ih =>
    cases hid : b.id? with
    | none =>
      have haddressed : addressed (b :: rest) = addressed rest := by simp [addressed, hid]
      rw [haddressed, ih]
      by_cases hown : a = b
      · subst hown
        simp [wordOf, hid]
      · simp [hown]
    | some id =>
      have haddressed : addressed (b :: rest) = (b, id) :: addressed rest := by simp [addressed, hid]
      rw [haddressed, List.map_cons, fill, ih, get?_take]
      by_cases hown : a = b
      · subst hown
        -- every later answer for the attribute is the same one
        cases hgood : (table id).good? with
        | none => simp [wordOf, hid, hgood]
        | some v =>
          by_cases hlater : a ∈ rest
          · simp [wordOf, hid, hgood, hlater]
          · simp [wordOf, hid, hgood, hlater]
      · simp [hown, Ne.symm hown]

end Reading

/-- What a change reports of an attribute: the value that it brings along, or else what was read. -/
theorem ReadTask.get?_changeEvent (text : String) (read : AttributeSet) (data : DataValue) (a : Attribute) :
    (changeEvent text read data).2.get? a
      = ((if a = .value then data.good?.map a.format else none).or (read.get? a)).or
          (if a = .nodeId then some text else none) := by
  unfold changeEvent
  cases hgood : data.good? with
  | none => cases a <;> simp [AttributeSet.get?_merge, AttributeSet.get?_insert]
  | some v => cases a <;> simp [AttributeSet.get?_merge, AttributeSet.get?_insert]

/-- **Tables**: with the value from the table, a change reports what a poll does. -/
theorem ReadTask.changeEvent_table (table : AttributeId → DataValue) (text : String) (node : NodeId)
    (time time' : Instant) :
    let answers (attributes : List Attribute) : List DataValue :=
      (Reading.addressed attributes).map fun p => table p.2
    (changeEvent text
        ((Reading.planned text node Attribute.descriptive).event time (answers Attribute.descriptive))
        (table .value)).2
      = (Reading.planned text node Attribute.polled).event time' (answers Attribute.polled) := by
  intro answers
  have hfill (attributes : List Attribute) (a : Attribute) :
      (Reading.fill .empty (Reading.planned text node attributes).requested (answers attributes)).get? a
        = (if a ∈ attributes then Reading.wordOf table a else none) := by
    rw [Reading.planned, Reading.get?_fill_table, AttributeSet.get?_empty, Option.or_none]
  apply AttributeSet.ext_get?
  intro a
  rw [get?_changeEvent, Reading.get?_event, Reading.get?_event, hfill, hfill]
  cases a with
  | nodeId => rfl
  | timestamp => rfl
  | value =>
    -- a change does not read the value, and a poll reads the one that the change brings along
    cases hgood : (table .value).good? with
    | none => simp [Attribute.descriptive, Attribute.polled, Reading.wordOf, Attribute.id?, hgood]
    | some v => simp [Attribute.polled, Reading.wordOf, Attribute.id?, hgood]
  | browseName => simp [Attribute.descriptive, Attribute.polled]
  | displayName => simp [Attribute.descriptive, Attribute.polled]
  | description => simp [Attribute.descriptive, Attribute.polled]

/-- After a reading that failed, a poll reports nothing. -/
theorem ReadTask.pollEvent_error (text : String) (e : ReadError) :
    (pollEvent text (.error e)).2 = none := by
  cases e with
  | notConnected => rfl
  | invalidNode text cause => rfl
  | transport cause => rfl

/-- A change reports then what it brought along. -/
theorem ReadTask.changeEvent_error (text : String) (e : ReadError) (data : DataValue) :
    (changeEvent text (Reading.quiet text (.error e)).2 data).2
      = { nodeId := some text, value := data.good?.map Attribute.value.format } := by
  have hread : (Reading.quiet text (.error e)).2 = .empty := by
    cases e with
    | notConnected => rfl
    | invalidNode text cause => rfl
    | transport cause => rfl
  rw [hread, changeEvent]
  cases data.good? with
  | none => rfl
  | some v => rfl

/-! ## Tasks -/

namespace Bridge

variable {b : Bridge}

/-- A task always has something to ask for. -/
theorem requested_of_plan {connected : Bool} {t : ReadTask} {r : Reading}
    (hplan : Reading.plan connected t.node t.attributes = .ok r) : r.requested.isEmpty = false := by
  have hrequested : r.requested = Reading.addressed t.attributes := by
    unfold Reading.plan at hplan
    split at hplan
    · cases hplan
    · split at hplan
      · cases hplan
      · rw [← Except.ok.inj hplan]
  rw [hrequested, ReadTask.attributes]
  cases t.purpose with
  | poll => rfl
  | change data => rfl

/-- **Tasks**: a task that need not wait reads as everyone does. -/
theorem run_eq_read (hfaults : b.client.link.faults.read.delay = 0) (t : ReadTask) :
    b.run t = (b.read t.node t.attributes).2.finish t (b.read t.node t.attributes).1 := by
  unfold run read Reading.attempt
  cases hplan : Reading.plan b.client.manager.isConnected t.node t.attributes with
  | error e => rfl
  | ok r =>
    have hrequested := requested_of_plan hplan
    simp only [hrequested, Bool.false_eq_true, if_false, session, ask, Link.beginRead, hfaults, if_true]
    rfl

/-- A reading over a link without faults is answered by the server. -/
theorem answer_session (hfaults : b.client.link.faults.read = {}) {node : NodeId}
    {attributes : List Attribute} (hbatch : Reading.batch node attributes ≠ []) :
    (session.answer attributes b node).1
      = (b.client.link.server.read (Reading.batch node attributes)).1 := by
  rw [Session.answer, if_neg hbatch]
  simp only [session, Link.beginRead, hfaults]
  rfl

/-- Such a reading changes nothing but the link and the log. -/
theorem read_frame (hfaults : b.client.link.faults.read.delay = 0) (text : String)
    (attributes : List Attribute) : ∃ link notices,
      (b.read text attributes).2 = { b with client := { b.client with link }, notices } := by
  unfold read Reading.attempt
  cases hplan : Reading.plan b.client.manager.isConnected text attributes with
  | error e => exact ⟨_, _, rfl⟩
  | ok r =>
    cases hrequested : r.requested.isEmpty with
    | true =>
      simp only [hrequested, if_true]
      exact ⟨_, _, rfl⟩
    | false =>
      simp only [hrequested, Bool.false_eq_true, if_false, session, Link.beginRead, hfaults, if_true]
      exact ⟨_, _, rfl⟩

/-! ## Reports -/

/-- A task reports an event, or none: its reading amounts to that, and it changes nothing but the link and
the log and delivers just that. -/
structure Reports (b : Bridge) (t : ReadTask) (event? : Option AttributeSet) : Prop where
  event : (t.event (b.read t.node t.attributes).1).2 = event?
  delivers : ∃ link notices, b.run t
    = let after : Bridge := { b with client := { b.client with link }, notices }
      event?.elim after after.deliver

/-- A task that need not wait reports what the outcome of its reading amounts to. -/
theorem reports_of_read (hfaults : b.client.link.faults.read = {}) {t : ReadTask}
    {outcome : Except ReadError AttributeSet} (hread : (b.read t.node t.attributes).1 = outcome)
    {event? : Option AttributeSet} (hevent : (t.event outcome).2 = event?) : b.Reports t event? where
  event := by rw [hread, hevent]
  delivers := by
    have hdelay : b.client.link.faults.read.delay = 0 := by rw [hfaults]
    obtain ⟨link, notices, hafter⟩ := read_frame hdelay t.node t.attributes
    rw [run_eq_read hdelay, hafter, hread, finish]
    refine ⟨link, (t.event outcome).1.reverse ++ notices, ?_⟩
    dsimp only
    rw [hevent]
    cases event? with
    | none => rfl
    | some event => rfl

theorem reports_poll (hfaults : b.client.link.faults.read = {}) {text : String}
    {outcome : Except ReadError AttributeSet} (hread : (b.read text Attribute.polled).1 = outcome) :
    b.Reports ⟨text, .poll⟩ (ReadTask.pollEvent text outcome).2 := by
  subst hread
  exact reports_of_read hfaults rfl rfl

theorem reports_change (hfaults : b.client.link.faults.read = {}) {text : String}
    {outcome : Except ReadError AttributeSet} (hread : (b.read text Attribute.descriptive).1 = outcome)
    (data : DataValue) : b.Reports ⟨text, .change data⟩
      (some (ReadTask.changeEvent text (Reading.quiet text outcome).2 data).2) := by
  subst hread
  exact reports_of_read hfaults rfl rfl

/-- Whoever reads gets what the session of the connection gives. -/
theorem read_fst (b : Bridge) (text : String) (attributes : List Attribute) : (b.read text attributes).1
    = session.gives b.client.manager.isConnected text attributes b := rfl

section

variable {text : String} {node : NodeId} {attributes : List Attribute}

/-- A reading over a link without faults, while connected. -/
theorem read_eq (hconnected : b.client.manager.isConnected = true)
    (hfaults : b.client.link.faults.read = {}) (hparse : NodeId.parse text = .ok node)
    (hbatch : Reading.batch node attributes ≠ []) : ∃ time, (b.read text attributes).1
      = ((Reading.planned text node attributes).complete time
          (b.client.link.server.read (Reading.batch node attributes)).1).2 := by
  have hattempt := session.attempt_planned text attributes b hparse
  rw [read_fst, hconnected, Session.gives, hattempt]
  exact ⟨_, by rw [← answer_session hfaults hbatch]⟩

/-- A server that answers says what its table does. -/
theorem read_answered (hconnected : b.client.manager.isConnected = true)
    (hfaults : b.client.link.faults.read = {}) (hparse : NodeId.parse text = .ok node)
    (hbatch : Reading.batch node attributes ≠ []) (hopen : b.client.link.server.closed = false)
    (hreads : b.client.link.server.failReads = false) :
    ∃ time, (b.read text attributes).1 = .ok ((Reading.planned text node attributes).event time
      ((Reading.addressed attributes).map fun p => b.client.link.server.valueOf ⟨node, p.2⟩)) := by
  obtain ⟨time, hread⟩ := read_eq hconnected hfaults hparse hbatch
  refine ⟨time, hread.trans ?_⟩
  have hanswer : (b.client.link.server.read (Reading.batch node attributes)).1
      = .ok ((Reading.batch node attributes).map b.client.link.server.valueOf) := by
    simp only [Server.read, hopen, hreads, Bool.false_eq_true, if_false]
    rfl
  rw [hanswer, ← Reading.map_item_addressed, List.map_map]
  rfl

/-- A server that does not answer makes the reading fail as a whole. -/
theorem read_failed (hconnected : b.client.manager.isConnected = true)
    (hfaults : b.client.link.faults.read = {}) (hparse : NodeId.parse text = .ok node)
    (hbatch : Reading.batch node attributes ≠ [])
    (hfails : b.client.link.server.closed = true ∨ b.client.link.server.failReads = true) :
    ∃ e, (b.read text attributes).1 = .error e := by
  obtain ⟨time, hread⟩ := read_eq hconnected hfaults hparse hbatch
  have hanswer : ∃ e, (b.client.link.server.read (Reading.batch node attributes)).1 = .error e := by
    cases hclosed : b.client.link.server.closed with
    | true => exact ⟨.closed, by simp [Server.read, hclosed]⟩
    | false =>
      rcases hfails with hcontra | hreads
      · exact absurd (hclosed.symm.trans hcontra) (by decide)
      · exact ⟨.service "read failed", by simp [Server.read, hclosed, hreads]⟩
  obtain ⟨e, hanswer⟩ := hanswer
  exact ⟨.transport e, by rw [hread, hanswer]; rfl⟩

end

/-- **Reports**: while connected, a poll and a change report the same event of a node, if the change brings
along what the server's table says of the value.  When the server does not answer, a poll reports nothing, and
a change the node and the value that it brings along, if that is good. -/
theorem same_event (b : Bridge) (text : String) (node : NodeId)
    (hconnected : b.client.manager.isConnected = true) (hfaults : b.client.link.faults.read = {})
    (hparse : NodeId.parse text = .ok node) :
    let server := b.client.link.server
    (server.closed = false ∧ server.failReads = false →
      ∃ event, (b.read text Attribute.polled).1 = .ok event
        ∧ b.Reports ⟨text, .poll⟩ (some event)
        ∧ b.Reports ⟨text, .change (server.valueOf ⟨node, .value⟩)⟩ (some event))
    ∧ (server.closed = true ∨ server.failReads = true →
      b.Reports ⟨text, .poll⟩ none
        ∧ ∀ data, b.Reports ⟨text, .change data⟩
          (some { nodeId := some text, value := data.good?.map Attribute.value.format })) := by
  intro server
  have hpolled : Reading.batch node Attribute.polled ≠ [] := List.cons_ne_nil _ _
  have hdescriptive : Reading.batch node Attribute.descriptive ≠ [] := List.cons_ne_nil _ _
  constructor
  · rintro ⟨hopen, hreads⟩
    obtain ⟨time, hread⟩ := read_answered hconnected hfaults hparse hpolled hopen hreads
    obtain ⟨time', hnamed⟩ := read_answered hconnected hfaults hparse hdescriptive hopen hreads
    refine ⟨_, hread, ?_, ?_⟩
    · have hfull := AttributeSet.isEmpty_of_get? (Reading.tells_event text node Attribute.polled time
        ((Reading.addressed Attribute.polled).map fun p => server.valueOf ⟨node, p.2⟩)).node
      have hpoll := reports_poll hfaults hread
      rwa [ReadTask.pollEvent, hfull] at hpoll
    · have hchange := reports_change hfaults hnamed (server.valueOf ⟨node, .value⟩)
      have hsame := ReadTask.changeEvent_table (fun id => server.valueOf ⟨node, id⟩) text node time' time
      exact hsame ▸ hchange
  · intro hfails
    obtain ⟨e, hread⟩ := read_failed hconnected hfaults hparse hpolled hfails
    obtain ⟨e', hnamed⟩ := read_failed hconnected hfaults hparse hdescriptive hfails
    constructor
    · rw [← ReadTask.pollEvent_error text e]
      exact reports_poll hfaults hread
    · intro data
      rw [← ReadTask.changeEvent_error text e' data]
      exact reports_change hfaults hnamed data

/-- A bridge that is connected to a server where a node's name reads bad and its description uncertain. -/
def describedExample (failReads : Bool) : Bridge :=
  let node : NodeId := ⟨0, .numeric 1⟩
  let server := ((({} : Server).describe node "Level" "Tank level" "" (.int 4)).answer
    ⟨node, .browseName⟩ (.bad .nodeIdUnknown)).answer
    ⟨node, .description⟩ ⟨some (.string "tank"), ⟨0x40000000⟩⟩
  { create {} {} with
    client := (({ link := { server := { server with failReads } } } : Client).connect
      "opc.tcp://mock:4840").2.2 }

theorem same_event_describedExample :
    let event : AttributeSet :=
      { nodeId := some "i=1", displayName := some "Tank level", value := some "4" }
    (describedExample false).Reports ⟨"i=1", .poll⟩ (some event)
    ∧ (describedExample false).Reports ⟨"i=1", .change (.good (.int 4))⟩ (some event)
    ∧ (describedExample true).Reports ⟨"i=1", .poll⟩ none
    ∧ (describedExample true).Reports ⟨"i=1", .change (.good (.int 5))⟩
      (some { nodeId := some "i=1", value := some "5" }) := by
  intro event
  have hparse : NodeId.parse "i=1" = .ok ⟨0, .numeric 1⟩ := by decide +kernel
  obtain ⟨event', hread, hpoll, hchange⟩ :=
    (same_event (describedExample false) "i=1" ⟨0, .numeric 1⟩ rfl rfl hparse).1 ⟨rfl, rfl⟩
  have hsame : ((describedExample false).read "i=1" Attribute.polled).1.toOption = some event := by
    decide +kernel
  obtain rfl : event' = event := by
    rw [hread] at hsame
    exact Option.some.inj hsame
  obtain ⟨hnone, hplain⟩ :=
    (same_event (describedExample true) "i=1" ⟨0, .numeric 1⟩ rfl rfl hparse).2 (Or.inr rfl)
  have hfive : (DataValue.good (.int 5)).good?.map Attribute.value.format = some "5" := by
    decide +kernel
  have hbrought := hplain (.good (.int 5))
  rw [hfive] at hbrought
  exact ⟨hpoll, hchange, hnone, hbrought⟩

end Bridge

end FieldBridge
