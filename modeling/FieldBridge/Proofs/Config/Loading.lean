/-
  Configurations, field by field.

  Fourteen variables set fourteen fields.  The variables are read one after another into one configuration,
  so it is not plain that a field hears of its own variable only, nor which of several invalid values is
  reported.

  1. **Specification** — what the text of a variable denotes for its field is said without the readers
     (`Variable.Denotes`).  A field holds what its variable denotes, or its default (`Variable.Reads`), and
     of the checked variables the first invalid one counts (`FirstInvalid`).

  2. **Fields** — a configuration is the family of its fields (`ext_get`), and setting one leaves the others
     (`get_put_of_ne`).

  3. **Values** — each reader accepts exactly the texts that denote something, so setting a variable
     succeeds exactly for these (`set_eq_ok_iff`).

  4. **Loading** — reading the variables of a list either succeeds, and each of them has set its own field,
     or stops at the first that is invalid (`loads_loadFrom`).  `load_fieldwise` is this for all variables.
-/

import FieldBridge.Config
import FieldBridge.Proofs.Number.Decimal
import FieldBridge.Proofs.Text.Cut

namespace FieldBridge.Config

/-! ## Specification -/

/-- What the field of a variable holds. -/
def Variable.Value : Variable → Type
  | .server | .bootstrapServers | .topic | .aggregateId => String
  | .nodes | .pollingNodes => List String
  | .pollingEnabled => Bool
  | .pollingCycle | .flushTimeout => UInt64
  | .brokerType => BrokerKind
  | .schemaRegistry => Option String
  | .topicPartitions => UInt32
  | .topicReplication => UInt16
  | .payloadFormat => Format

/-- The field that a variable sets. -/
def get (c : Config) : (v : Variable) → v.Value
  | .server => c.serverUrl
  | .nodes => c.nodes
  | .pollingEnabled => c.pollingEnabled
  | .pollingCycle => c.pollingInterval
  | .pollingNodes => c.pollingNodes
  | .brokerType => c.brokerKind
  | .bootstrapServers => c.bootstrapServers
  | .schemaRegistry => c.schemaRegistry
  | .topic => c.topic
  | .topicPartitions => c.partitions
  | .topicReplication => c.replication
  | .payloadFormat => c.format
  | .aggregateId => c.aggregateId
  | .flushTimeout => c.flushTimeout

/-- The text is a word, blanks around it and capitals allowed. -/
def Spells (s word : String) : Prop :=
  ∃ core, Text.IsCore s.toList core ∧ core.map Text.lower = word.toList

/-- The text is a numeral of a number, blanks around it allowed. -/
def Numbers (s : String) (n : Nat) : Prop :=
  ∃ core, Text.IsCore s.toList core ∧ Decimal.IsNumeral core n

/-- The words for a flag. -/
def flagWords : Bool → List String
  | true => ["true", "1", "yes", "on"]
  | false => ["false", "0", "no", "off"]

/-- What the text of a variable denotes.  Numbers are as wide as their field; the interval of polling is
not zero. -/
def Variable.Denotes : (v : Variable) → String → v.Value → Prop
  | .server, s, x | .bootstrapServers, s, x | .topic, s, x | .aggregateId, s, x => x = s
  | .nodes, s, x | .pollingNodes, s, x => x = parseNodes s
  | .pollingEnabled, s, b => ∃ word ∈ flagWords b, Spells s word
  | .pollingCycle, s, (n : UInt64) => Numbers s n.toNat ∧ n ≠ 0
  | .brokerType, s, (k : BrokerKind) => Spells s k.name
  | .schemaRegistry, s, x => x = some s
  | .topicPartitions, s, (n : UInt32) => Numbers s n.toNat
  | .topicReplication, s, (n : UInt16) => Numbers s n.toNat
  | .payloadFormat, s, (f : Format) => Spells s f.name
  | .flushTimeout, s, (n : UInt64) => Numbers s n.toNat

/-- What a field holds that held `old`: what its variable denotes, or the same where the variable is
absent. -/
def Variable.Reads (v : Variable) (old : v.Value) : Option String → v.Value → Prop
  | none, x => x = old
  | some s, x => v.Denotes s x

/-- The variable is absent or denotes something. -/
def Variable.Accepts (v : Variable) (value : Option String) : Prop := ∀ s ∈ value, ∃ x, v.Denotes s x

/-- The variables with texts that denote nothing, in the order in which they are read. -/
def Variable.checked : List Variable :=
  [.pollingEnabled, .pollingCycle, .brokerType, .topicPartitions, .topicReplication, .payloadFormat,
    .flushTimeout]

/-- The first of the checked variables that holds an invalid text. -/
def FirstInvalid (lookup : String → Option String) (v : Variable) : Prop :=
  ∃ before after, Variable.checked = before ++ v :: after
    ∧ (∀ w ∈ before, w.Accepts (lookup w.name)) ∧ ¬ v.Accepts (lookup v.name)

/-! ## Fields -/

/-- The configuration with one field set. -/
def put (c : Config) : (v : Variable) → v.Value → Config
  | .server, x => { c with serverUrl := x }
  | .nodes, x => { c with nodes := x }
  | .pollingEnabled, x => { c with pollingEnabled := x }
  | .pollingCycle, x => { c with pollingInterval := x }
  | .pollingNodes, x => { c with pollingNodes := x }
  | .brokerType, x => { c with brokerKind := x }
  | .bootstrapServers, x => { c with bootstrapServers := x }
  | .schemaRegistry, x => { c with schemaRegistry := x }
  | .topic, x => { c with topic := x }
  | .topicPartitions, x => { c with partitions := x }
  | .topicReplication, x => { c with replication := x }
  | .payloadFormat, x => { c with format := x }
  | .aggregateId, x => { c with aggregateId := x }
  | .flushTimeout, x => { c with flushTimeout := x }

@[simp] theorem get_put_self (c : Config) (v : Variable) (x : v.Value) : (c.put v x).get v = x := by
  cases v <;> rfl

theorem get_put_of_ne (c : Config) {v w : Variable} (h : w ≠ v) (x : v.Value) :
    (c.put v x).get w = c.get w := by
  cases v <;> cases w <;> first | rfl | exact absurd rfl h

/-- A configuration is the family of its fields. -/
theorem ext_get {c c' : Config} (h : ∀ v, c.get v = c'.get v) : c = c' := by
  cases c
  cases c'
  simp only [mk.injEq]
  exact ⟨h .server, h .nodes, h .pollingEnabled, h .pollingCycle, h .pollingNodes, h .brokerType,
    h .bootstrapServers, h .schemaRegistry, h .topic, h .topicPartitions, h .topicReplication,
    h .payloadFormat, h .aggregateId, h .flushTimeout⟩

/-! ## Values -/

theorem spells_iff {s word : String} : Spells s word ↔ String.ofList (Text.keyword s.toList) = word := by
  rw [← String.toList_inj, String.toList_ofList]
  constructor
  · rintro ⟨core, hcore, hword⟩
    rw [Text.keyword, Text.trim_eq_iff.2 hcore, hword]
  · intro h
    exact ⟨Text.trim s.toList, Text.trim_eq_iff.1 rfl, h⟩

/-- No word stands for both yes and no. -/
theorem flagWords_disjoint {word : String} (h : word ∈ flagWords true) : word ∉ flagWords false := by
  revert word
  decide

theorem parseFlag_eq_ok_iff {s : String} {b : Bool} :
    parseFlag s = .ok b ↔ ∃ word ∈ flagWords b, Spells s word := by
  simp only [spells_iff, exists_eq_right']
  unfold parseFlag
  constructor
  · intro h
    dsimp only at h
    split at h
    · rename_i hyes
      obtain rfl := Except.ok.inj h
      exact hyes
    split at h
    · rename_i hno
      obtain rfl := Except.ok.inj h
      exact hno
    · cases h
  · intro h
    cases b with
    | true => exact if_pos h
    | false =>
      have hyes : String.ofList (Text.keyword s.toList) ∉ flagWords true :=
        fun hyes => flagWords_disjoint hyes h
      exact (if_neg hyes).trans (if_pos h)

theorem parseNumber_eq_ok_iff {limit n : Nat} {s : String} :
    parseNumber limit s = .ok n ↔ Numbers s n ∧ n ≤ limit := by
  have hparse : parseNumber limit s = .ok n ↔ Decimal.parse limit (Text.trim s.toList) = .ok n := by
    unfold parseNumber
    split
    · rename_i h
      rw [h, Except.ok.injEq, Except.ok.injEq]
    · rename_i h
      simp [h]
  rw [hparse, Decimal.parse_eq_ok_iff]
  constructor
  · rintro ⟨hnumeral, hle⟩
    exact ⟨⟨_, Text.trim_eq_iff.1 rfl, hnumeral⟩, hle⟩
  · rintro ⟨⟨core, hcore, hnumeral⟩, hle⟩
    rw [Text.trim_eq_iff.2 hcore]
    exact ⟨hnumeral, hle⟩

/-- Some type holds exactly the numbers up to a limit. -/
structure IsWidth (limit : Nat) {α : Type} (wrap : Nat → α) (unwrap : α → Nat) : Prop where
  le : ∀ x, unwrap x ≤ limit
  wrap_unwrap : ∀ x, wrap (unwrap x) = x
  unwrap_wrap : ∀ n ≤ limit, unwrap (wrap n) = n

theorem isWidth16 : IsWidth Decimal.limit16 Nat.toUInt16 UInt16.toNat where
  le x := Nat.le_of_lt_succ x.toNat_lt
  wrap_unwrap _ := UInt16.ofNat_toNat
  unwrap_wrap _ h := UInt16.toNat_ofNat_of_lt' (Nat.lt_succ_of_le h)

theorem isWidth32 : IsWidth Decimal.limit32 Nat.toUInt32 UInt32.toNat where
  le x := Nat.le_of_lt_succ x.toNat_lt
  wrap_unwrap _ := UInt32.ofNat_toNat
  unwrap_wrap _ h := UInt32.toNat_ofNat_of_lt' (Nat.lt_succ_of_le h)

theorem isWidth64 : IsWidth Decimal.limit64 Nat.toUInt64 UInt64.toNat where
  le x := Nat.le_of_lt_succ x.toNat_lt
  wrap_unwrap _ := UInt64.ofNat_toNat
  unwrap_wrap _ h := UInt64.toNat_ofNat_of_lt' (Nat.lt_succ_of_le h)

theorem map_eq_ok_iff {ε α β : Type} {f : α → β} {x : Except ε α} {y : β} :
    x.map f = .ok y ↔ ∃ a, x = .ok a ∧ y = f a := by
  cases x with
  | error e => simp [Except.map]
  | ok a => simp [Except.map, eq_comm]

/-- A number that is read is put into a field as wide as its limit. -/
theorem map_parseNumber_eq_ok_iff {limit : Nat} {α β : Type} {wrap : Nat → α} {unwrap : α → Nat}
    (hwidth : IsWidth limit wrap unwrap) {f : α → β} {s : String} {y : β} :
    ((parseNumber limit s).map fun n => f (wrap n)) = .ok y
      ↔ ∃ x, Numbers s (unwrap x) ∧ y = f x := by
  rw [map_eq_ok_iff]
  constructor
  · rintro ⟨n, hread, rfl⟩
    obtain ⟨hnumber, hle⟩ := parseNumber_eq_ok_iff.1 hread
    exact ⟨wrap n, (hwidth.unwrap_wrap n hle).symm ▸ hnumber, rfl⟩
  · rintro ⟨x, hnumber, rfl⟩
    exact ⟨unwrap x, parseNumber_eq_ok_iff.2 ⟨hnumber, hwidth.le x⟩, by rw [hwidth.wrap_unwrap]⟩

theorem parseInterval_eq_ok_iff {s : String} {n : UInt64} :
    parseInterval s = .ok n ↔ Numbers s n.toNat ∧ n ≠ 0 := by
  have hread : ∀ n : UInt64, parseNumber Decimal.limit64 s = .ok n.toNat ↔ Numbers s n.toNat := by
    intro n
    rw [parseNumber_eq_ok_iff]
    exact and_iff_left (isWidth64.le n)
  unfold parseInterval
  constructor
  · intro h
    split at h
    · cases h
    · rename_i m hm hnumber
      obtain rfl := Except.ok.inj h
      have hback := isWidth64.unwrap_wrap m (parseNumber_eq_ok_iff.1 hnumber).2
      refine ⟨(hread _).1 (hback.symm ▸ hnumber), ?_⟩
      intro hzero
      rw [hzero] at hback
      exact hm hback.symm
    · cases h
  · rintro ⟨hnumber, hne⟩
    have hpos : n.toNat ≠ 0 := fun hzero => hne (UInt64.toNat_inj.1 hzero)
    rw [(hread n).2 hnumber]
    split
    · rename_i hzero
      exact absurd (Except.ok.inj hzero) hpos
    · rename_i hok
      rw [← Except.ok.inj hok, isWidth64.wrap_unwrap]
    · rename_i herror
      cases herror

/-- Among values with different names, the one with a name is found. -/
theorem find?_name_eq_some_iff {α : Type} {name : α → String} {values : List α}
    (hall : ∀ a, a ∈ values) (hinj : ∀ a b, name a = name b → a = b) {word : String} {a : α} :
    (values.find? fun b => name b = word) = some a ↔ word = name a := by
  constructor
  · intro h
    simpa [eq_comm] using List.find?_some h
  · rintro rfl
    cases hfind : values.find? fun b => name b = name a with
    | none =>
      have hother := List.find?_eq_none.1 hfind a (hall a)
      exact absurd hother (by simp)
    | some b =>
      have hname : name b = name a := by simpa using List.find?_some hfind
      rw [hinj b a hname]

/-- A reader that looks the text up among the names of all values. -/
theorem parse_name_eq_ok_iff {ε α : Type} {parse : String → Except ε α} {name : α → String}
    (values : List α) (hall : ∀ a, a ∈ values) (hinj : ∀ a b, name a = name b → a = b) {s : String}
    (hfound : ∀ a, (values.find? fun b => name b = String.ofList (Text.keyword s.toList)) = some a →
      parse s = .ok a)
    (hnone : (values.find? fun b => name b = String.ofList (Text.keyword s.toList)) = none →
      ∃ e, parse s = .error e) {a : α} : parse s = .ok a ↔ Spells s (name a) := by
  rw [spells_iff, ← find?_name_eq_some_iff hall hinj]
  constructor
  · intro h
    cases hfind : values.find? fun b => name b = String.ofList (Text.keyword s.toList) with
    | some b => rw [← Except.ok.inj ((hfound b hfind).symm.trans h)]
    | none =>
      obtain ⟨e, he⟩ := hnone hfind
      rw [h] at he
      cases he
  · exact hfound a

theorem parseBroker_eq_ok_iff {s : String} {k : BrokerKind} :
    BrokerKind.parse s = .ok k ↔ Spells s k.name := by
  refine parse_name_eq_ok_iff [.mqtt, .memory] (fun a => ?_) (fun a b => ?_) (fun a h => ?_) fun h => ?_
  · cases a <;> decide
  · cases a <;> cases b <;> decide
  · simp only [BrokerKind.parse, h]
  · simp [BrokerKind.parse, h]

theorem parseFormat_eq_ok_iff {s : String} {f : Format} :
    Format.parse s = .ok f ↔ Spells s f.name := by
  refine parse_name_eq_ok_iff [.json, .cbor] (fun a => ?_) (fun a b => ?_) (fun a h => ?_) fun h => ?_
  · cases a <;> decide
  · cases a <;> cases b <;> decide
  · simp only [Format.parse, Format.ofName?, h]
  · simp [Format.parse, Format.ofName?, h]

theorem ok_eq_ok_iff {ε α β : Type} {f : α → β} {x : α} {y : β} :
    (Except.ok (f x) : Except ε β) = .ok y ↔ ∃ a, a = x ∧ y = f a := by
  simp [eq_comm]

/-- **Values**: setting a variable succeeds exactly for the texts that denote something, and sets the field
to what they denote. -/
theorem set_eq_ok_iff {c c' : Config} {v : Variable} {s : String} :
    c.set v s = .ok c' ↔ ∃ x, v.Denotes s x ∧ c' = c.put v x := by
  cases v with
  | server => exact ok_eq_ok_iff (f := c.put .server)
  | nodes => exact ok_eq_ok_iff (f := c.put .nodes)
  | pollingNodes => exact ok_eq_ok_iff (f := c.put .pollingNodes)
  | bootstrapServers => exact ok_eq_ok_iff (f := c.put .bootstrapServers)
  | schemaRegistry => exact ok_eq_ok_iff (f := c.put .schemaRegistry)
  | topic => exact ok_eq_ok_iff (f := c.put .topic)
  | aggregateId => exact ok_eq_ok_iff (f := c.put .aggregateId)
  | pollingEnabled =>
    exact map_eq_ok_iff.trans (exists_congr fun b => and_congr_left' parseFlag_eq_ok_iff)
  | pollingCycle =>
    exact map_eq_ok_iff.trans (exists_congr fun n => and_congr_left' parseInterval_eq_ok_iff)
  | topicPartitions => exact map_parseNumber_eq_ok_iff isWidth32 (f := c.put .topicPartitions)
  | topicReplication => exact map_parseNumber_eq_ok_iff isWidth16 (f := c.put .topicReplication)
  | flushTimeout => exact map_parseNumber_eq_ok_iff isWidth64 (f := c.put .flushTimeout)
  | brokerType =>
    show c.set .brokerType s = .ok c' ↔ ∃ k : BrokerKind, Spells s k.name ∧ c' = { c with brokerKind := k }
    simp only [← parseBroker_eq_ok_iff, set]
    cases BrokerKind.parse s with
    | ok k => simp [eq_comm]
    | error e => simp
  | payloadFormat =>
    show c.set .payloadFormat s = .ok c' ↔ ∃ f : Format, Spells s f.name ∧ c' = { c with format := f }
    simp only [← parseFormat_eq_ok_iff, set]
    cases Format.parse s with
    | ok f => simp [eq_comm]
    | error e => simp

/-- A text denotes one thing at most. -/
theorem Variable.Denotes.unique {v : Variable} {s : String} {x y : v.Value} (hx : v.Denotes s x)
    (hy : v.Denotes s y) : x = y := by
  have hput : ({} : Config).put v x = ({} : Config).put v y :=
    Except.ok.inj ((set_eq_ok_iff.2 ⟨x, hx, rfl⟩).symm.trans (set_eq_ok_iff.2 ⟨y, hy, rfl⟩))
  have hget := congrArg (fun c : Config => c.get v) hput
  simpa using hget

/-! ## Loading -/

/-- What a field holds after it has been read is determined. -/
theorem Variable.Reads.unique {v : Variable} {old x y : v.Value} {value : Option String}
    (hx : v.Reads old value x) (hy : v.Reads old value y) : x = y := by
  cases value with
  | none => exact hx.trans hy.symm
  | some s => exact Variable.Denotes.unique hx hy

/-- A field that has been read shows that its variable is absent or valid. -/
theorem Variable.Reads.accepts {v : Variable} {old x : v.Value} {value : Option String}
    (h : v.Reads old value x) : v.Accepts value := by
  intro s hs
  obtain rfl := Option.mem_def.1 hs
  exact ⟨x, h⟩

/-- What comes of reading the variables of a list into a configuration. -/
inductive Loads (lookup : String → Option String) (c : Config) (vs : List Variable) :
    Except Error Config → Prop
  /-- Each variable has set its own field, and no other field has changed. -/
  | fields {c' : Config} (inside : ∀ v ∈ vs, v.Reads (c.get v) (lookup v.name) (c'.get v))
    (outside : ∀ v ∉ vs, c'.get v = c.get v) : Loads lookup c vs (.ok c')
  /-- The first variable that is invalid has ended the reading. -/
  | invalid (before after : List Variable) {v : Variable} {cause : Cause}
    (split : vs = before ++ v :: after) (accepted : ∀ w ∈ before, w.Accepts (lookup w.name))
    (refused : ¬ v.Accepts (lookup v.name)) : Loads lookup c vs (.error ⟨v, cause⟩)

/-- A variable that is read in front of others leaves their fields to them. -/
theorem Loads.cons {lookup : String → Option String} {c c₁ : Config} {v : Variable}
    {rest : List Variable} {r : Except Error Config} (hv : v ∉ rest)
    (hreads : v.Reads (c.get v) (lookup v.name) (c₁.get v)) (hothers : ∀ w ≠ v, c₁.get w = c.get w)
    (h : Loads lookup c₁ rest r) : Loads lookup c (v :: rest) r := by
  cases h with
  | fields inside outside =>
    refine .fields ?_ ?_
    · intro w hw
      rcases List.mem_cons.1 hw with rfl | hw
      · rw [outside w hv]
        exact hreads
      · have hne : w ≠ v := fun h => hv (h ▸ hw)
        rw [← hothers w hne]
        exact inside w hw
    · intro w hw
      obtain ⟨hne, hnotMem⟩ := not_or.1 (List.mem_cons.not.1 hw)
      rw [outside w hnotMem, hothers w hne]
  | @invalid before after w cause split accepted refused =>
    refine .invalid (v :: before) after (by rw [split, List.cons_append]) ?_ refused
    intro u hu
    rcases List.mem_cons.1 hu with rfl | hu
    · exact hreads.accepts
    · exact accepted u hu

/-- **Loading**: reading the variables of a list either succeeds, each of them having set its own field and
no other, or stops at the first that is invalid. -/
theorem loads_loadFrom (lookup : String → Option String) {vs : List Variable} (hnodup : vs.Nodup)
    (c : Config) : Loads lookup c vs (loadFrom lookup c vs) := by
  induction vs generalizing c with
  | nil => exact .fields (by simp) fun _ _ => rfl
  | cons v rest ih =>
    obtain ⟨hv, hrest⟩ := List.nodup_cons.1 hnodup
    unfold loadFrom
    split
    · rename_i hvalue
      refine Loads.cons hv ?_ (fun _ _ => rfl) (ih hrest c)
      rw [hvalue]
      rfl
    · rename_i s hvalue
      split
      · rename_i c₁ hset
        obtain ⟨x, hx, rfl⟩ := set_eq_ok_iff.1 hset
        refine Loads.cons hv ?_ (fun w hw => get_put_of_ne c hw x) (ih hrest (c.put v x))
        rw [hvalue, get_put_self]
        exact hx
      · rename_i cause hset
        refine .invalid [] rest rfl (by simp) ?_
        intro haccepts
        rw [hvalue] at haccepts
        obtain ⟨x, hx⟩ := haccepts s rfl
        have hok : c.set v s = .ok (c.put v x) := set_eq_ok_iff.2 ⟨x, hx, rfl⟩
        rw [hset] at hok
        cases hok

/-- A variable that is not checked takes any text. -/
theorem accepts_of_notMem {v : Variable} (h : v ∉ Variable.checked) (value : Option String) :
    v.Accepts value := by
  intro s _
  cases v with
  | server | nodes | pollingNodes | bootstrapServers | schemaRegistry | topic | aggregateId =>
    exact ⟨_, rfl⟩
  | pollingEnabled | pollingCycle | brokerType | topicPartitions | topicReplication | payloadFormat
    | flushTimeout => exact absurd h (by decide)

theorem Variable.mem_all (v : Variable) : v ∈ Variable.all := by
  cases v <;> decide

/-- Loading reads every variable once. -/
theorem loads_load (lookup : String → Option String) :
    Loads lookup {} Variable.all (load lookup) :=
  loads_loadFrom lookup (by decide) {}

/-- A configuration is loaded exactly if each of its fields holds what its own variable says. -/
theorem load_eq_ok_iff {lookup : String → Option String} {c : Config} :
    load lookup = .ok c ↔ ∀ v : Variable, v.Reads (({} : Config).get v) (lookup v.name) (c.get v) := by
  have hload := loads_load lookup
  constructor
  · intro h
    rw [h] at hload
    cases hload with
    | fields inside _ => exact fun v => inside v v.mem_all
  · intro h
    cases hr : load lookup with
    | ok c' =>
      rw [hr] at hload
      cases hload with
      | fields inside _ =>
        refine congrArg Except.ok (ext_get fun v => ?_)
        exact (inside v v.mem_all).unique (h v)
    | error e =>
      rw [hr] at hload
      cases hload with
      | invalid _ _ _ _ refused => exact absurd (h _).accepts refused

/-- The variable that ends the reading is the first checked one that is invalid. -/
theorem firstInvalid_of_load {lookup : String → Option String} {e : Error}
    (h : load lookup = .error e) : FirstInvalid lookup e.variableName := by
  have hload := loads_load lookup
  rw [h] at hload
  cases hload with
  | @invalid before after v cause split accepted refused =>
    have hchecked : v ∈ Variable.checked := by
      by_contra hnot
      exact refused (accepts_of_notMem hnot _)
    -- the checked variables are read in the order in which they stand among all
    have hfilter : Variable.checked = Variable.all.filter (· ∈ Variable.checked) := by decide
    rw [split, List.filter_append, List.filter_cons_of_pos (by simpa using hchecked)] at hfilter
    exact ⟨_, _, hfilter, fun w hw => accepted w (List.mem_of_mem_filter hw), refused⟩

/-- **Configurations**: loading succeeds exactly if each of the seven checked variables is absent or holds
a valid text; then each field holds what its own variable denotes, or its default, and no other
configuration does; and the interval of polling is not zero.  Otherwise the text of the error names the
first checked variable that is invalid. -/
theorem load_fieldwise (lookup : String → Option String) :
    ((∃ c, load lookup = .ok c) ↔ ∀ v ∈ Variable.checked, v.Accepts (lookup v.name))
    ∧ (∀ c, load lookup = .ok c
      ↔ ∀ v : Variable, v.Reads (({} : Config).get v) (lookup v.name) (c.get v))
    ∧ (∀ c, load lookup = .ok c → c.pollingInterval ≠ 0)
    ∧ ∀ e, load lookup = .error e → FirstInvalid lookup e.variableName
      ∧ ∃ why, e.message = "Invalid " ++ e.variableName.name ++ ": " ++ why := by
  refine ⟨?_, fun c => load_eq_ok_iff, ?_, ?_⟩
  · constructor
    · rintro ⟨c, hc⟩ v -
      exact (load_eq_ok_iff.1 hc v).accepts
    · intro hall
      cases hr : load lookup with
      | ok c => exact ⟨c, rfl⟩
      | error e =>
        obtain ⟨before, after, hsplit, -, hv⟩ := firstInvalid_of_load hr
        have hmem : e.variableName ∈ Variable.checked :=
          hsplit ▸ List.mem_append_right before List.mem_cons_self
        exact absurd (hall _ hmem) hv
  · intro c hc
    have hcycle := load_eq_ok_iff.1 hc .pollingCycle
    cases hvalue : lookup Variable.pollingCycle.name with
    | none =>
      rw [hvalue] at hcycle
      have hdefault : c.pollingInterval = 1000 := hcycle
      rw [hdefault]
      decide
    | some s =>
      rw [hvalue] at hcycle
      exact hcycle.2
  · intro e he
    exact ⟨firstInvalid_of_load he, e.cause.message, rfl⟩

/-- Two of the variables are invalid; the one that is read first was given last. -/
def faultyVariables (name : String) : Option String :=
  [("OPCUA_BRIDGE_TOPIC_PARTITIONS", "-1"), ("OPCUA_BRIDGE_TOPIC", "-1"),
    ("OPCUA_BRIDGE_POLLING_CYCLE_MS", " 0 ")].lookup name

/-- Numerals may have a sign and zeros in front, words capitals, and both blanks around them. -/
def plantVariables (name : String) : Option String :=
  [("OPCUA_BRIDGE_POLLING_ENABLED", " Yes\t"), ("OPCUA_BRIDGE_POLLING_CYCLE_MS", " +0250"),
    ("OPCUA_BRIDGE_BROKER_TYPE", "MEMORY"), ("OPCUA_BRIDGE_NODES", "i=85,")].lookup name

theorem load_fieldwise_plantExample :
    load faultyVariables = .error ⟨.pollingCycle, .notPositive⟩
    ∧ FirstInvalid faultyVariables .pollingCycle
    ∧ ∃ c, load plantVariables = .ok c ∧ c.pollingInterval ≠ 0
      ∧ .pollingEnabled ∈ Variable.checked
      ∧ Variable.Accepts .pollingEnabled (plantVariables "OPCUA_BRIDGE_POLLING_ENABLED") := by
  have hfaulty : load faultyVariables = .error ⟨.pollingCycle, .notPositive⟩ := by rfl
  have hplant : load plantVariables = .ok { ({} : Config) with
      nodes := ["i=85"], pollingEnabled := true, pollingInterval := 250, brokerKind := .memory } := by rfl
  obtain ⟨-, -, -, herror⟩ := load_fieldwise faultyVariables
  obtain ⟨hsuccess, -, hinterval, -⟩ := load_fieldwise plantVariables
  have henabled : .pollingEnabled ∈ Variable.checked := by decide
  exact ⟨hfaulty, (herror _ hfaulty).1, _, hplant, hinterval _ hplant, henabled,
    hsuccess.1 ⟨_, hplant⟩ _ henabled⟩

end FieldBridge.Config
