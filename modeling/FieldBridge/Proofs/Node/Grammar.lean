/-
  The grammar of node ids.

  1. **Grammar** — a node id is an optional index between `ns=` and `;`, a letter, `=` and a value.  Index
     and value are texts, and what they denote is said without the reader (`Parts.Denotes`).

  2. **Faults** — the parts are looked at from left to right, and the first one at fault decides the error
     (`Fault`).  The parts in front of it are in order.

  3. **Stages** — the namespace is read as the text is divided (`divides_of_parseSpace`), and the
     identifier exactly as its letter says (`parseIdentifier_eq_ok_iff`).

  4. **Unique division** — a numeral holds no `;`, no letter is `=`, and none begins `ns=`.  So a text is
     divided in one way at most, whatever separators its value holds (`Parts.unique`).

  5. **Reading** — of a text without the blanks around it the grammar says whether it is read, as what, and
     with which error it is refused otherwise (`parse_grammar`).
-/

import FieldBridge.Node.Id
import FieldBridge.Proofs.Guid
import FieldBridge.Proofs.Number.Decimal
import FieldBridge.Proofs.Text.Base64
import FieldBridge.Proofs.Text.Cut

namespace FieldBridge.NodeId

/-! ## Grammar -/

/-- What an index text denotes; where none is written the namespace is 0. -/
inductive IndexDenotes : Option (List Char) → UInt16 → Prop
  | missing : IndexDenotes none 0
  | written {index : List Char} {space : UInt16} (h : Decimal.IsNumeral index space.toNat) :
    IndexDenotes (some index) space

/-- What the text behind a letter denotes. -/
inductive ValueDenotes : Char → List Char → Identifier → Prop
  | numeric {value : List Char} {n : UInt32} (h : Decimal.IsNumeral value n.toNat) :
    ValueDenotes 'i' value (.numeric n)
  | string (value : List Char) : ValueDenotes 's' value (.string (String.ofList value))
  | guid {value : List Char} {g : Guid} (h : g.Writes value) : ValueDenotes 'g' value (.guid g)
  | opaqueBytes (bytes : Bytes) :
    ValueDenotes 'b' (Base64.standard.encode bytes) (.opaqueBytes bytes)

/-- The parts of a node id, as they are written. -/
structure Parts where
  index : Option (List Char)
  letter : Char
  value : List Char
  deriving DecidableEq

namespace Parts

/-- The parts with what stands between them. -/
def text (p : Parts) : List Char :=
  match p.index with
  | none => p.letter :: '=' :: p.value
  | some index => "ns=".toList ++ (index ++ ';' :: p.letter :: '=' :: p.value)

/-- Each part denotes its part of the node id. -/
structure Denotes (p : Parts) (id : NodeId) : Prop where
  index : IndexDenotes p.index id.space
  value : ValueDenotes p.letter p.value id.identifier

end Parts

/-- The letters that are known. -/
def letters : List Char := ['i', 's', 'g', 'b']

theorem mem_letters_iff {c : Char} : c ∈ letters ↔ c = 'i' ∨ c = 's' ∨ c = 'g' ∨ c = 'b' := by
  simp [letters]

/-- The index of a text that begins with `ns=`, and the rest behind `;`; every other text has no index. -/
inductive Divides : List Char → Option (List Char) → List Char → Prop
  | bare {s : List Char} (h : ¬ "ns=".toList <+: s) : Divides s none s
  | indexed {index rest : List Char} (h : ';' ∉ index) :
    Divides ("ns=".toList ++ (index ++ ';' :: rest)) (some index) rest

/-- The first part of a text at fault, from left to right, and the error for it. -/
inductive Fault (input : String) (s : List Char) : ParseError → Prop
  /-- `;` is missing behind `ns=`. -/
  | semicolon {behind : List Char} (hs : s = "ns=".toList ++ behind) (h : ';' ∉ behind) :
    Fault input s (.malformed input)
  | index {index rest : List Char} (hs : Divides s (some index) rest)
    (h : ∀ space, ¬ IndexDenotes (some index) space) :
    Fault input s (.invalidNamespace (String.ofList index))
  /-- `=` is missing in the rest. -/
  | equals {index : Option (List Char)} {rest : List Char} {space : UInt16} (hs : Divides s index rest)
    (hindex : IndexDenotes index space) (h : '=' ∉ rest) : Fault input s (.malformed input)
  | letter {index : Option (List Char)} {letter value : List Char} {space : UInt16}
    (hs : Divides s index (letter ++ '=' :: value)) (hindex : IndexDenotes index space)
    (hletter : '=' ∉ letter) (h : ∀ c ∈ letters, letter ≠ [c]) :
    Fault input s (.unknownType (String.ofList letter))
  | value {index : Option (List Char)} {c : Char} {value : List Char} {space : UInt16}
    (hs : Divides s index (c :: '=' :: value)) (hindex : IndexDenotes index space) (hletter : c ∈ letters)
    (h : ∀ identifier, ¬ ValueDenotes c value identifier) :
    Fault input s (.invalidIdentifier (String.ofList value))

/-! ## The namespace -/

/-- An index that is read denotes the number as a namespace. -/
theorem denotes_of_parse {index : List Char} {n : Nat} (h : Decimal.parse Decimal.limit16 index = .ok n) :
    IndexDenotes (some index) n.toUInt16 := by
  obtain ⟨hindex, hle⟩ := Decimal.parse_eq_ok_iff.1 h
  have hback : n.toUInt16.toNat = n := UInt16.toNat_ofNat_of_lt' (Nat.lt_succ_of_le hle)
  exact .written (hback.symm ▸ hindex)

theorem parse_of_denotes {index : List Char} {space : UInt16} (h : IndexDenotes (some index) space) :
    Decimal.parse Decimal.limit16 index = .ok space.toNat := by
  cases h with
  | written h => exact Decimal.parse_eq_ok_iff.2 ⟨h, Nat.le_of_lt_succ space.toNat_lt⟩

theorem parseSpace_of_divides {input : String} {s rest : List Char} {index : Option (List Char)}
    {space : UInt16} (hs : Divides s index rest) (hindex : IndexDenotes index space) :
    parseSpace input s = .ok (space, rest) := by
  cases hs with
  | bare h =>
    cases hindex
    rw [parseSpace, Text.after?_eq_none_iff.2 h]
  | @indexed index rest h =>
    rw [parseSpace, Text.after?_append]
    simp [Text.cut?_append h, parse_of_denotes hindex]

/-- **Namespaces** are read as the grammar divides the text. -/
theorem divides_of_parseSpace {input : String} {s rest : List Char} {space : UInt16}
    (h : parseSpace input s = .ok (space, rest)) :
    ∃ index, Divides s index rest ∧ IndexDenotes index space := by
  unfold parseSpace at h
  split at h
  · rename_i hafter
    obtain ⟨rfl, rfl⟩ := Prod.mk.inj (Except.ok.inj h)
    exact ⟨none, .bare (Text.after?_eq_none_iff.1 hafter), .missing⟩
  · rename_i behind hafter
    obtain rfl := Text.after?_eq_some_iff.1 hafter
    split at h
    · exact absurd h (by simp)
    · rename_i index tail hcut
      obtain ⟨hindex, rfl⟩ := Text.cut?_eq_some_iff.1 hcut
      split at h
      · rename_i n hn
        obtain ⟨rfl, rfl⟩ := Prod.mk.inj (Except.ok.inj h)
        exact ⟨some index, .indexed hindex, denotes_of_parse hn⟩
      · exact absurd h (by simp)

theorem parseSpace_of_semicolon (input : String) {behind : List Char} (h : ';' ∉ behind) :
    parseSpace input ("ns=".toList ++ behind) = .error (.malformed input) := by
  rw [parseSpace, Text.after?_append]
  simp only [Text.cut?_eq_none_iff.2 h]

theorem parseSpace_of_index {input : String} {s index rest : List Char} (hs : Divides s (some index) rest)
    (h : ∀ space, ¬ IndexDenotes (some index) space) :
    parseSpace input s = .error (.invalidNamespace (String.ofList index)) := by
  cases hs with
  | indexed hindex =>
    rw [parseSpace, Text.after?_append]
    simp only [Text.cut?_append hindex]
    cases hn : Decimal.parse Decimal.limit16 index with
    | ok n => exact absurd (denotes_of_parse hn) (h _)
    | error e => rfl

/-- **Namespaces** are refused for the first fault of the text. -/
theorem fault_of_parseSpace {input : String} {s : List Char} {e : ParseError}
    (h : parseSpace input s = .error e) : Fault input s e := by
  unfold parseSpace at h
  split at h
  · exact absurd h (by simp)
  · rename_i behind hafter
    obtain rfl := Text.after?_eq_some_iff.1 hafter
    split at h
    · rename_i hcut
      obtain rfl := Except.error.inj h
      exact .semicolon rfl (Text.cut?_eq_none_iff.1 hcut)
    · rename_i index tail hcut
      obtain ⟨hindex, rfl⟩ := Text.cut?_eq_some_iff.1 hcut
      split at h
      · exact absurd h (by simp)
      · rename_i cause hparse
        obtain rfl := Except.error.inj h
        refine .index (.indexed hindex) fun space hspace => ?_
        rw [parse_of_denotes hspace] at hparse
        exact absurd hparse (by simp)

/-! ## The identifier -/

theorem parseIdentifier_of_denotes {c : Char} {value : List Char} {identifier : Identifier}
    (h : ValueDenotes c value identifier) : parseIdentifier [c] value = .ok identifier := by
  cases h with
  | @numeric _ n h =>
    have hn := Decimal.parse_eq_ok_iff.2 ⟨h, Nat.le_of_lt_succ n.toNat_lt⟩
    simp [parseIdentifier, Decimal.limit32, hn]
  | string => rfl
  | guid h => simp [parseIdentifier, Guid.parse?_eq_some_iff.2 h]
  | opaqueBytes bytes => simp [parseIdentifier, Base64.proper_standard.decode?_encode]

/-- An identifier that is read stands behind a single letter and is what the value denotes. -/
theorem denotes_of_parseIdentifier {letter value : List Char} {identifier : Identifier}
    (h : parseIdentifier letter value = .ok identifier) :
    ∃ c, letter = [c] ∧ ValueDenotes c value identifier := by
  unfold parseIdentifier at h
  dsimp only at h
  split at h
  · split at h
    · rename_i n hn
      obtain rfl := Except.ok.inj h
      obtain ⟨hvalue, hle⟩ := Decimal.parse_eq_ok_iff.1 hn
      have hback : n.toUInt32.toNat = n := UInt32.toNat_ofNat_of_lt' (Nat.lt_succ_of_le hle)
      exact ⟨'i', rfl, .numeric (hback.symm ▸ hvalue)⟩
    · exact absurd h (by simp)
  · obtain rfl := Except.ok.inj h
    exact ⟨'s', rfl, .string value⟩
  · split at h
    · rename_i g hg
      obtain rfl := Except.ok.inj h
      exact ⟨'g', rfl, .guid (Guid.parse?_eq_some_iff.1 hg)⟩
    · exact absurd h (by simp)
  · split at h
    · rename_i bytes hbytes
      obtain rfl := Except.ok.inj h
      obtain rfl := Base64.proper_standard.decode?_eq_some_iff.1 hbytes
      exact ⟨'b', rfl, .opaqueBytes bytes⟩
    · exact absurd h (by simp)
  · exact absurd h (by simp)

/-- **Identifiers** are read exactly as the letter says. -/
theorem parseIdentifier_eq_ok_iff {c : Char} {value : List Char} {identifier : Identifier} :
    parseIdentifier [c] value = .ok identifier ↔ ValueDenotes c value identifier := by
  constructor
  · intro h
    obtain ⟨c', hc, hvalue⟩ := denotes_of_parseIdentifier h
    obtain rfl := (List.cons.inj hc).1
    exact hvalue
  · exact parseIdentifier_of_denotes

theorem parseIdentifier_of_letter {letter : List Char} (h : ∀ c ∈ letters, letter ≠ [c])
    (value : List Char) : parseIdentifier letter value = .error (.unknownType (String.ofList letter)) :=
  parseIdentifier.eq_5 letter value (h 'i' (by decide)) (h 's' (by decide)) (h 'g' (by decide))
    (h 'b' (by decide))

/-- Behind a letter that is known, only the value can be at fault. -/
theorem parseIdentifier_of_mem {c : Char} (h : c ∈ letters) (value : List Char) :
    (∃ identifier, parseIdentifier [c] value = .ok identifier)
    ∨ parseIdentifier [c] value = .error (.invalidIdentifier (String.ofList value)) := by
  rcases mem_letters_iff.1 h with rfl | rfl | rfl | rfl
  · cases hvalue : Decimal.parse Decimal.limit32 value <;> simp [parseIdentifier, hvalue]
  · exact Or.inl ⟨_, rfl⟩
  · cases hvalue : Guid.parse? value <;> simp [parseIdentifier, hvalue]
  · cases hvalue : Base64.standard.decode? value <;> simp [parseIdentifier, hvalue]

theorem parseIdentifier_of_value {c : Char} {value : List Char} (hc : c ∈ letters)
    (h : ∀ identifier, ¬ ValueDenotes c value identifier) :
    parseIdentifier [c] value = .error (.invalidIdentifier (String.ofList value)) := by
  rcases parseIdentifier_of_mem hc value with ⟨identifier, hread⟩ | hread
  · exact absurd (parseIdentifier_eq_ok_iff.1 hread) (h identifier)
  · exact hread

/-- **Identifiers** are refused for the first fault behind the namespace. -/
theorem fault_of_parseIdentifier {input : String} {s : List Char} {index : Option (List Char)}
    {letter value : List Char} {space : UInt16} {e : ParseError}
    (hs : Divides s index (letter ++ '=' :: value)) (hindex : IndexDenotes index space)
    (hletter : '=' ∉ letter) (h : parseIdentifier letter value = .error e) : Fault input s e := by
  by_cases hknown : ∃ c ∈ letters, letter = [c]
  · obtain ⟨c, hc, rfl⟩ := hknown
    have hvalue : ∀ identifier, ¬ ValueDenotes c value identifier := by
      intro identifier hdenotes
      exact absurd (h.symm.trans (parseIdentifier_of_denotes hdenotes)) (by simp)
    obtain rfl := Except.error.inj (h.symm.trans (parseIdentifier_of_value hc hvalue))
    exact .value hs hindex hc hvalue
  · have hunknown : ∀ c ∈ letters, letter ≠ [c] := fun c hc heq => hknown ⟨c, hc, heq⟩
    obtain rfl := Except.error.inj (h.symm.trans (parseIdentifier_of_letter hunknown value))
    exact .letter hs hindex hletter hunknown

/-! ## Parts -/

/-- No letter is `=`, and none begins `ns=`. -/
theorem separators_notMem {c : Char} (h : c ∈ letters) : '=' ∉ [c] ∧ c ≠ 'n' := by
  rcases mem_letters_iff.1 h with rfl | rfl | rfl | rfl <;> decide

theorem letter_mem {c : Char} {value : List Char} {identifier : Identifier}
    (h : ValueDenotes c value identifier) : c ∈ letters := by
  cases h <;> decide

/-- A numeral holds no `;`. -/
theorem semicolon_notMem {index : List Char} {space : UInt16} (h : IndexDenotes (some index) space) :
    ';' ∉ index := by
  cases h with
  | written h =>
    obtain ⟨d, hsign, -, hd, -⟩ := h
    have hdigits : ';' ∉ d := fun hmem => absurd (hd ';' hmem) (by decide)
    rcases hsign with rfl | rfl
    · exact hdigits
    · simpa using hdigits

/-- Parts that denote a node id are divided as the text says. -/
theorem Parts.Denotes.divides {p : Parts} {id : NodeId} (h : p.Denotes id) :
    Divides p.text p.index (p.letter :: '=' :: p.value) := by
  obtain ⟨index, letter, value⟩ := p
  obtain ⟨hindex, hvalue⟩ := h
  cases index with
  | none =>
    refine .bare fun hprefix => ?_
    obtain ⟨rest, hrest⟩ := hprefix
    exact (separators_notMem (letter_mem hvalue)).2 (List.cons.inj hrest).1.symm
  | some index => exact .indexed (semicolon_notMem hindex)

/-- The text itself says where it is divided. -/
theorem Divides.eq_cut {s rest : List Char} {index : Option (List Char)} (h : Divides s index rest) :
    (index, rest) = (((Text.after? "ns=".toList s).bind (Text.cut? ';')).map
      fun parts => (some parts.1, parts.2)).getD (none, s) := by
  cases h with
  | bare h =>
    rw [Text.after?_eq_none_iff.2 h]
    rfl
  | indexed h =>
    rw [Text.after?_append, Option.bind_some, Text.cut?_append h]
    rfl

theorem Divides.unique {s rest rest' : List Char} {index index' : Option (List Char)}
    (h : Divides s index rest) (h' : Divides s index' rest') : index = index' ∧ rest = rest' :=
  Prod.mk.inj (h.eq_cut.trans h'.eq_cut.symm)

theorem IndexDenotes.unique {index : Option (List Char)} {space space' : UInt16}
    (h : IndexDenotes index space) (h' : IndexDenotes index space') : space = space' := by
  cases h with
  | missing =>
    cases h'
    rfl
  | @written index _ h =>
    have hread := (parse_of_denotes (.written h)).symm.trans (parse_of_denotes h')
    exact UInt16.toNat_inj.1 (Except.ok.inj hread)

theorem ValueDenotes.unique {c : Char} {value : List Char} {identifier identifier' : Identifier}
    (h : ValueDenotes c value identifier) (h' : ValueDenotes c value identifier') :
    identifier = identifier' :=
  Except.ok.inj ((parseIdentifier_of_denotes h).symm.trans (parseIdentifier_of_denotes h'))

theorem Divides.text_eq {s value : List Char} {index : Option (List Char)} {c : Char}
    (h : Divides s index (c :: '=' :: value)) : Parts.text ⟨index, c, value⟩ = s := by
  cases h <;> rfl

/-- **Unique division**: a text is divided in one way at most, and its parts denote one node id. -/
theorem Parts.unique {p q : Parts} {id id' : NodeId} (htext : p.text = q.text) (hp : p.Denotes id)
    (hq : q.Denotes id') : p = q ∧ id = id' := by
  have hdivides := hp.divides
  rw [htext] at hdivides
  obtain ⟨hindex, hrest⟩ := hdivides.unique hq.divides
  obtain ⟨hletter, hrest⟩ := List.cons.inj hrest
  have hvalue := (List.cons.inj hrest).2
  obtain ⟨index, letter, value⟩ := p
  obtain ⟨space, identifier⟩ := id
  obtain ⟨space', identifier'⟩ := id'
  subst hindex hletter hvalue
  obtain rfl := hp.index.unique hq.index
  obtain rfl := hp.value.unique hq.value
  exact ⟨rfl, rfl⟩

/-! ## Reading -/

theorem parse_of_parts {input : String} {p : Parts} {id : NodeId}
    (htext : p.text = Text.trim input.toList) (h : p.Denotes id) : parse input = .ok id := by
  have hcut : Text.cut? '=' (p.letter :: '=' :: p.value) = some ([p.letter], p.value) :=
    Text.cut?_append (separators_notMem (letter_mem h.value)).1 p.value
  rw [parse, ← htext, parseSpace_of_divides h.divides h.index]
  simp only [hcut, parseIdentifier_of_denotes h.value]

theorem parse_of_fault {input : String} {e : ParseError} (h : Fault input (Text.trim input.toList) e) :
    parse input = .error e := by
  cases h with
  | semicolon hs h => rw [parse, hs, parseSpace_of_semicolon input h]
  | index hs h => rw [parse, parseSpace_of_index hs h]
  | equals hs hindex h =>
    rw [parse, parseSpace_of_divides hs hindex]
    simp only [Text.cut?_eq_none_iff.2 h]
  | letter hs hindex hletter h =>
    rw [parse, parseSpace_of_divides hs hindex]
    simp only [Text.cut?_append hletter, parseIdentifier_of_letter h]
  | @value index c value space hs hindex hletter h =>
    have hcut : Text.cut? '=' (c :: '=' :: value) = some ([c], value) :=
      Text.cut?_append (separators_notMem hletter).1 value
    rw [parse, parseSpace_of_divides hs hindex]
    simp only [hcut, parseIdentifier_of_value hletter h]

/-- Every text is divided into parts that denote a node id, as which it is read, or has a first fault, for
which it is refused. -/
theorem parse_cases (input : String) :
    (∃ (p : Parts) (id : NodeId), p.text = Text.trim input.toList ∧ p.Denotes id ∧ parse input = .ok id)
    ∨ ∃ e, Fault input (Text.trim input.toList) e ∧ parse input = .error e := by
  cases hspace : parseSpace input (Text.trim input.toList) with
  | error e =>
    have hfault := fault_of_parseSpace hspace
    exact Or.inr ⟨e, hfault, parse_of_fault hfault⟩
  | ok found =>
    obtain ⟨space, rest⟩ := found
    -- the front is in order, so that what follows is the first fault
    obtain ⟨index, hs, hindex⟩ := divides_of_parseSpace hspace
    cases hcut : Text.cut? '=' rest with
    | none =>
      have hfault : Fault input (Text.trim input.toList) (.malformed input) :=
        .equals hs hindex (Text.cut?_eq_none_iff.1 hcut)
      exact Or.inr ⟨_, hfault, parse_of_fault hfault⟩
    | some found =>
      obtain ⟨letter, value⟩ := found
      obtain ⟨hletter, rfl⟩ := Text.cut?_eq_some_iff.1 hcut
      cases hread : parseIdentifier letter value with
      | error e =>
        have hfault : Fault input (Text.trim input.toList) e :=
          fault_of_parseIdentifier hs hindex hletter hread
        exact Or.inr ⟨e, hfault, parse_of_fault hfault⟩
      | ok identifier =>
        obtain ⟨c, rfl, hvalue⟩ := denotes_of_parseIdentifier hread
        have htext : Parts.text ⟨index, c, value⟩ = Text.trim input.toList := hs.text_eq
        have hdenotes : Parts.Denotes ⟨index, c, value⟩ ⟨space, identifier⟩ := ⟨hindex, hvalue⟩
        exact Or.inl ⟨_, _, htext, hdenotes, parse_of_parts htext hdenotes⟩

theorem parse_eq_ok_iff {input : String} {id : NodeId} :
    parse input = .ok id ↔ ∃ p : Parts, p.text = Text.trim input.toList ∧ p.Denotes id := by
  constructor
  · intro h
    rcases parse_cases input with ⟨p, id', htext, hp, hread⟩ | ⟨e, -, hread⟩
    · obtain rfl := Except.ok.inj (h.symm.trans hread)
      exact ⟨p, htext, hp⟩
    · exact absurd (h.symm.trans hread) (by simp)
  · rintro ⟨p, htext, hp⟩
    exact parse_of_parts htext hp

theorem parse_eq_error_iff {input : String} {e : ParseError} :
    parse input = .error e ↔ Fault input (Text.trim input.toList) e := by
  constructor
  · intro h
    rcases parse_cases input with ⟨p, id, -, -, hread⟩ | ⟨e', hfault, hread⟩
    · exact absurd (h.symm.trans hread) (by simp)
    · obtain rfl := Except.error.inj (h.symm.trans hread)
      exact hfault
  · exact parse_of_fault

/-- **Reading**: without the blanks around it, a text is read exactly if it is divided into an optional
index, a letter and a value that denote a node id, and as this node id; it is divided so in one way.  Every
other text is refused, for its first part at fault. -/
theorem parse_grammar (input : String) :
    Text.IsCore input.toList (Text.trim input.toList)
    ∧ (∀ id, parse input = .ok id ↔ ∃ p : Parts, p.text = Text.trim input.toList ∧ p.Denotes id)
    ∧ (∀ (p q : Parts) (id id' : NodeId), p.text = q.text → p.Denotes id → q.Denotes id' →
      p = q ∧ id = id')
    ∧ ∀ e, parse input = .error e ↔ Fault input (Text.trim input.toList) e :=
  ⟨Text.trim_eq_iff.1 rfl, fun _ => parse_eq_ok_iff, fun _ _ _ _ => Parts.unique,
    fun _ => parse_eq_error_iff⟩

/-- Separators within a value divide nothing: the first text has one index and one value.  The second has
`=`, but `;` is missed before. -/
theorem parse_grammar_separatorsExample :
    parse "\t ns=+02;s=a=b;ns=1 " = .ok ⟨2, .string "a=b;ns=1"⟩
    ∧ (∀ (p : Parts) (id : NodeId), p.text = "ns=+02;s=a=b;ns=1".toList → p.Denotes id →
      p = ⟨some "+02".toList, 's', "a=b;ns=1".toList⟩)
    ∧ parse " ns=x,s=A" = .error (.malformed " ns=x,s=A") := by
  obtain ⟨-, hread, hunique, -⟩ := parse_grammar "\t ns=+02;s=a=b;ns=1 "
  obtain ⟨-, -, -, hrefused⟩ := parse_grammar " ns=x,s=A"
  have hparts : Parts.Denotes ⟨some "+02".toList, 's', "a=b;ns=1".toList⟩ ⟨2, .string "a=b;ns=1"⟩ :=
    ⟨.written ⟨"02".toList, Or.inr rfl, by decide, by decide, by decide⟩, .string _⟩
  have htrim : Text.trim " ns=x,s=A".toList = "ns=".toList ++ "x,s=A".toList := by decide
  refine ⟨(hread _).2 ⟨_, by decide, hparts⟩, fun p id htext hp => ?_, (hrefused _).2 ?_⟩
  · exact (hunique p _ id _ (htext.trans (by decide)) hp hparts).1
  · exact .semicolon htrim (by decide)

end FieldBridge.NodeId
