/-
  Node ids read back.

  1. **Parts** — a written node id is the namespace, if it is not 0, the letter of the identifier, `=` and
     the identifier's own text (`display_eq`).  Each kind of identifier is read back from its letter and
     its text (`parseIdentifier_written`).

  2. **Front** — the namespace and the letter are found again whatever stands behind `=`, for neither
     holds a separator that is looked for earlier (`parse_of_trim`).

  3. **Trimming** — the whole text is trimmed before it is read.  Its front is never touched, so trimming
     takes away what is blank at the end of the identifier's text and nothing else (`parse_text_eq`).

  4. **Round trip** — so a node id is read back unless it is a text that ends with a blank; and no such
     identifier is ever read (`parse_text_iff`).
-/

import FieldBridge.Proofs.Node.Grammar

namespace FieldBridge

/-! ## Parts -/

namespace Identifier

/-- The letter in front of `=`. -/
def letter : Identifier → Char
  | .numeric _ => 'i'
  | .string _ => 's'
  | .guid _ => 'g'
  | .opaqueBytes _ => 'b'

/-- The text behind `=`. -/
def written : Identifier → List Char
  | .numeric n => Decimal.digits n.toNat
  | .string s => s.toList
  | .guid g => g.text
  | .opaqueBytes b => Base64.standard.encode b

/-- A text whose last character is blank. -/
def EndsBlank : Identifier → Prop
  | .string s => ∃ c ∈ s.toList.getLast?, Text.isBlank c = true
  | _ => False

theorem letter_ne_n (i : Identifier) : 'n' ≠ i.letter := by
  cases i <;> simp [letter]

theorem letter_ne_sep (i : Identifier) : '=' ≠ i.letter := by
  cases i <;> simp [letter]

theorem isBlank_letter (i : Identifier) : Text.isBlank i.letter = false := by
  cases i <;> rfl

end Identifier

namespace NodeId

open Identifier (letter written EndsBlank)

/-- What stands in front of `=`. -/
def front (space : UInt16) (letter : Char) : List Char :=
  (if space = 0 then [] else "ns=".toList ++ Decimal.digits space.toNat ++ [';']) ++ [letter]

theorem display_eq (id : NodeId) :
    id.display = front id.space id.identifier.letter ++ '=' :: id.identifier.written := by
  obtain ⟨space, identifier⟩ := id
  cases identifier <;> simp [display, displayIdentifier, front, letter, written]

/-- The text of an identifier denotes it. -/
theorem valueDenotes_written (i : Identifier) : ValueDenotes i.letter i.written i := by
  cases i with
  | numeric n => exact .numeric (Decimal.isNumeral_digits n.toNat)
  | string s =>
    have hs := ValueDenotes.string s.toList
    rwa [String.ofList_toList] at hs
  | guid g => exact .guid (.hyphenated g.isDigits_digits)
  | opaqueBytes b => exact .opaqueBytes b

/-- **Identifiers**: each is read back from its letter and its text. -/
theorem parseIdentifier_written (i : Identifier) : parseIdentifier [i.letter] i.written = .ok i :=
  parseIdentifier_of_denotes (valueDenotes_written i)

/-! ## The front -/

/-- The namespace in front is found, and what is read next begins with the letter. -/
theorem parseSpace_front (input : String) (space : UInt16) {letter : Char} (h : 'n' ≠ letter)
    (rest : List Char) : parseSpace input (front space letter ++ rest) = .ok (space, letter :: rest) := by
  by_cases hspace : space = 0
  · simp [parseSpace, front, hspace, Text.after?, h]
  · have hindex : IndexDenotes (some (Decimal.digits space.toNat)) space :=
      .written (Decimal.isNumeral_digits space.toNat)
    have hsplit : front space letter ++ rest
        = "ns=".toList ++ (Decimal.digits space.toNat ++ ';' :: (letter :: rest)) := by
      simp [front, hspace]
    rw [hsplit]
    exact parseSpace_of_divides (.indexed (semicolon_notMem hindex)) hindex

/-- A text that is a front, `=` and more once it is trimmed: the rest is read by the letter. -/
theorem parse_of_trim {input : String} {space : UInt16} {letter : Char} {value : List Char}
    (h : Text.trim input.toList = front space letter ++ '=' :: value) (hn : 'n' ≠ letter)
    (hsep : '=' ≠ letter) :
    parse input = (parseIdentifier [letter] value).map fun i => ⟨space, i⟩ := by
  have hletter : '=' ∉ [letter] := by simpa using hsep
  have hcut : Text.cut? '=' (letter :: '=' :: value) = some ([letter], value) :=
    Text.cut?_append hletter value
  rw [parse, h, parseSpace_front input space hn]
  simp only [hcut]
  cases parseIdentifier [letter] value with
  | error e => rfl
  | ok i => rfl

/-! ## Trimming -/

/-- Only the text behind `=` is trimmed, and only at its end. -/
theorem trim_display (id : NodeId) : Text.trim id.display
    = front id.space id.identifier.letter ++ '=' :: Text.trimRight id.identifier.written := by
  rw [display_eq]
  refine Text.trim_append (fun c hc => ?_) (by decide) _
  by_cases hspace : id.space = 0
  · obtain rfl : id.identifier.letter = c := by simpa [front, hspace] using hc
    exact id.identifier.isBlank_letter
  · obtain rfl : 'n' = c := by simpa [front, hspace] using hc
    decide

/-- What a written node id is read as. -/
theorem parse_text_eq (id : NodeId) : parse id.text
    = (parseIdentifier [id.identifier.letter] (Text.trimRight id.identifier.written)).map
      fun i => ⟨id.space, i⟩ := by
  refine parse_of_trim ?_ id.identifier.letter_ne_n id.identifier.letter_ne_sep
  rw [text, String.toList_ofList, trim_display]

/-- Only a text can end with a blank. -/
theorem trimRight_written {i : Identifier} (h : ¬ i.EndsBlank) : Text.trimRight i.written = i.written := by
  refine Text.trimRight_eq_self_iff.2 fun c hc => ?_
  have hmem : c ∈ i.written := List.mem_of_mem_getLast? hc
  cases i with
  | numeric n =>
    have hdigit : ∀ d < 10, Text.isBlank (Decimal.digit d) = false := by decide
    obtain ⟨d, hd, rfl⟩ := Decimal.mem_digits hmem
    exact hdigit d hd
  | string s => exact Bool.eq_false_iff.2 fun hblank => h ⟨c, hc, hblank⟩
  | guid g =>
    have hdigit : ∀ d < 16, Text.isBlank (Hex.digit d) = false := by decide
    rcases g.mem_text hmem with rfl | ⟨d, hd, rfl⟩
    · decide
    · exact hdigit d hd
  | opaqueBytes b =>
    have hsymbol : ∀ n < 64, Text.isBlank (Base64.standard.symbol n) = false := by decide
    rcases Base64.Variant.mem_encode hmem with ⟨n, hn, rfl⟩ | ⟨-, rfl⟩
    · exact hsymbol n hn
    · decide

/-! ## Round trip -/

/-- A node id is read back exactly if it does not end with a blank. -/
theorem parse_text_self_iff (id : NodeId) : parse id.text = .ok id ↔ ¬ id.identifier.EndsBlank := by
  constructor
  · rintro h hblank
    rw [parse_text_eq] at h
    obtain ⟨space, identifier⟩ := id
    cases identifier with
    | string s =>
      -- what is read is the text without its blanks, which is another text
      obtain ⟨c, hc, hc'⟩ := hblank
      have hread : String.ofList (Text.trimRight s.toList) = s := by
        simpa [parseIdentifier, letter, written, Except.map] using h
      have hread : Text.trimRight s.toList = s.toList := by
        simpa using congrArg String.toList hread
      have hkept := Text.trimRight_eq_self_iff.1 hread c hc
      exact absurd (hc'.symm.trans hkept) (by decide)
    | numeric n | guid g | opaqueBytes b => exact hblank
  · intro h
    rw [parse_text_eq, trimRight_written h, parseIdentifier_written]
    rfl

/-- A value is the end of the whole. -/
theorem Parts.value_suffix (p : Parts) : p.value <:+ p.text := by
  obtain ⟨index, letter, value⟩ := p
  have hrest : value <:+ letter :: '=' :: value :=
    (List.suffix_cons '=' value).trans (List.suffix_cons letter _)
  cases index with
  | none => exact hrest
  | some index =>
    have hbehind : letter :: '=' :: value <:+ index ++ ';' :: letter :: '=' :: value :=
      (List.suffix_cons ';' _).trans (List.suffix_append index _)
    exact (hrest.trans hbehind).trans (List.suffix_append _ _)

/-- What is read is no text that ends with a blank, since the whole was trimmed. -/
theorem not_endsBlank_of_parse {input : String} {id : NodeId} (h : parse input = .ok id) :
    ¬ id.identifier.EndsBlank := by
  obtain ⟨⟨index, letter, value⟩, htext, hp⟩ := parse_eq_ok_iff.1 h
  have hvalue : value <:+ Text.trim input.toList := htext ▸ Parts.value_suffix ⟨index, letter, value⟩
  obtain ⟨space, identifier⟩ := id
  have hdenotes : ValueDenotes letter value identifier := hp.value
  cases hdenotes with
  | numeric | guid | opaqueBytes => exact False.elim
  | string =>
    rintro ⟨c, hc, hblank⟩
    rw [String.toList_ofList] at hc
    -- the last character of the identifier is the last one of the whole
    obtain ⟨before, hbefore⟩ := hvalue
    have hlast : c ∈ (Text.trim input.toList).getLast? := by
      rw [← hbefore, List.getLast?_append, Option.mem_def.1 hc]
      rfl
    exact absurd (hblank.symm.trans (Text.trim_last c hlast)) (by decide)

/-- **Round trip**: a written node id is read back exactly if it is no text that ends with a blank; what
any text is read as is read back, so the written form is canonical. -/
theorem parse_text_iff :
    (∀ id : NodeId, parse id.text = .ok id ↔ ¬ id.identifier.EndsBlank)
    ∧ ∀ (input : String) (id : NodeId), parse input = .ok id → parse id.text = .ok id :=
  ⟨parse_text_self_iff, fun _ id h => (parse_text_self_iff id).2 (not_endsBlank_of_parse h)⟩

/-- Blanks around it and a zero in front are no part of the written form; separators within are. -/
theorem parse_text_separatorsExample :
    parse " ns=02;s=a=b; ns=c\t" = .ok ⟨2, .string "a=b; ns=c"⟩
    ∧ parse (NodeId.text ⟨2, .string "a=b; ns=c"⟩) = .ok ⟨2, .string "a=b; ns=c"⟩ := by
  have h : parse " ns=02;s=a=b; ns=c\t" = .ok ⟨2, .string "a=b; ns=c"⟩ := by cbv
  exact ⟨h, parse_text_iff.2 _ _ h⟩

end NodeId

end FieldBridge
