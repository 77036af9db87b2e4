/-
  JSON texts however they are laid out.

  Problem: one value has many texts, since blanks may stand in front of every token and behind the last.

  1. **Specification** — `Spaced ts s`: the text `s` is the tokens `ts` as they are written, with blanks
     between them.  A text writes a value if it is its tokens, spaced (`Writes`); the written form without
     blanks is one of those texts (`writes_write`).

  2. **Legible tokens** — without a blank between them two numbers would be read as one.  A list of tokens
     is legible if each is well formed and behind a number there is a token that ends it (`Legible`).
     The tokens of a well-formed value are legible, since behind a value within a list or a record comes a
     comma or what closes it (`legible_tokens`).

  3. **Lexer** — legible tokens are found in every text of them (`tokens?_spaced`): blanks are skipped,
     and each token is found in front of whatever follows.

  So a well-formed value is what each of its texts says (`read?_of_writes`).
-/

import FieldBridge.Proofs.Json.Tokens

namespace FieldBridge.Json

open Lexing (tokens?)

/-! ## Texts -/

/-- The written form of a token. -/
def Token.write : Token → Bytes
  | .openBracket => [0x5B]
  | .closeBracket => [0x5D]
  | .openBrace => [0x7B]
  | .closeBrace => [0x7D]
  | .comma => [0x2C]
  | .colon => [0x3A]
  | .atom v => v.write
  | .string w => quoted w

/-- Nothing, or blanks. -/
def Gap (s : Bytes) : Prop := ∀ b ∈ s, isBlank b = true

/-- The text is the tokens one behind the other, with blanks in front of each and behind the last. -/
inductive Spaced : List Token → Bytes → Prop where
  | nil {gap : Bytes} : Gap gap → Spaced [] gap
  | cons {gap rest : Bytes} {t : Token} {ts : List Token} : Gap gap → Spaced ts rest →
      Spaced (t :: ts) (gap ++ t.write ++ rest)

/-- The text writes the value, blanks between its tokens allowed. -/
def Writes (v : Json) (s : Bytes) : Prop := Spaced (tokens v) s

/-- Tokens with the same blanks in front of each of them and others behind the last. -/
theorem spaced_flatMap {gap last : Bytes} (hgap : Gap gap) (hlast : Gap last) (ts : List Token) :
    Spaced ts (ts.flatMap (fun t => gap ++ t.write) ++ last) := by
  induction ts with
  | nil => exact .nil hlast
  | cons t ts ih =>
    rw [List.flatMap_cons, List.append_assoc]
    exact .cons hgap ih

mutual

/-- The written form of a value is its tokens. -/
theorem flatMap_tokens : ∀ v : Json, (tokens v).flatMap Token.write = v.write
  | .null | .boolean _ | .number _ | .string _ => List.append_nil _
  | .array es => by simp [tokens, Token.write, write, flatMap_elementTokens es]
  | .object ms => by simp [tokens, Token.write, write, flatMap_memberTokens ms]

theorem flatMap_elementTokens : ∀ es : List Json,
    (elementTokens es).flatMap Token.write = writeElements es
  | [] => rfl
  | [v] => flatMap_tokens v
  | v :: w :: rest => by
    have hv := flatMap_tokens v
    have hrest := flatMap_elementTokens (w :: rest)
    simp [elementTokens, writeElements, Token.write, hv, hrest]

theorem flatMap_memberTokens : ∀ ms : List (Bytes × Json),
    (memberTokens ms).flatMap Token.write = writeMembers ms
  | [] => rfl
  | [(key, v)] => by simp [memberTokens, writeMembers, Token.write, flatMap_tokens v]
  | (key, v) :: m :: rest => by
    have hv := flatMap_tokens v
    have hrest := flatMap_memberTokens (m :: rest)
    simp [memberTokens, writeMembers, Token.write, hv, hrest]

end

/-- The written form of a value writes it. -/
theorem writes_write (v : Json) : Writes v v.write := by
  have hnone : Gap [] := by simp [Gap]
  have hspaced := spaced_flatMap hnone hnone (tokens v)
  rw [List.append_nil] at hspaced
  rwa [← flatMap_tokens v]

/-! ## Legible tokens -/

/-- A number ends in front of these tokens, also without a blank. -/
def Ends : List Token → Prop
  | [] | .comma :: _ | .closeBracket :: _ | .closeBrace :: _ => True
  | _ => False

/-- The token can be told apart from what follows. -/
def Token.Legible : Token → List Token → Prop
  | .atom (.number w), ts => IsNumber w ∧ Ends ts
  | .atom .null, _ | .atom (.boolean _), _ => True
  | .atom _, _ => False
  | .string w, _ => Quotable w
  | _, _ => True

/-- Each of the tokens can be told apart from those behind it. -/
def Legible : List Token → Prop
  | [] => True
  | t :: ts => t.Legible ts ∧ Legible ts

mutual

/-- The tokens of a well-formed value are legible in front of tokens at which a number ends. -/
theorem legible_tokens : ∀ v : Json, WellFormed v → ∀ ts, Ends ts → Legible ts →
    Legible (tokens v ++ ts)
  | .null, _, _, _, hts | .boolean _, _, _, _, hts => ⟨trivial, hts⟩
  | .number _, hv, _, hends, hts => ⟨⟨hv, hends⟩, hts⟩
  | .string _, hv, _, _, hts => ⟨hv, hts⟩
  | .array es, hv, ts, _, hts => by
    have helements := legible_elementTokens es hv (.closeBracket :: ts) trivial ⟨trivial, hts⟩
    rw [tokens, List.cons_append, List.cons_append, List.append_assoc]
    exact ⟨trivial, helements⟩
  | .object ms, hv, ts, _, hts => by
    have hmembers := legible_memberTokens ms hv (.closeBrace :: ts) trivial ⟨trivial, hts⟩
    rw [tokens, List.cons_append, List.cons_append, List.append_assoc]
    exact ⟨trivial, hmembers⟩

theorem legible_elementTokens : ∀ es : List Json, WellFormedElements es → ∀ ts, Ends ts →
    Legible ts → Legible (elementTokens es ++ ts)
  | [], _, _, _, hts => hts
  | [v], hes, ts, hends, hts => legible_tokens v hes.1 ts hends hts
  | v :: w :: rest, hes, ts, hends, hts => by
    have hrest := legible_elementTokens (w :: rest) hes.2 ts hends hts
    rw [elementTokens, List.append_assoc]
    exact legible_tokens v hes.1 _ trivial ⟨trivial, hrest⟩

theorem legible_memberTokens : ∀ ms : List (Bytes × Json), WellFormedMembers ms → ∀ ts, Ends ts →
    Legible ts → Legible (memberTokens ms ++ ts)
  | [], _, _, _, hts => hts
  | [(key, v)], hms, ts, hends, hts => ⟨hms.1, trivial, legible_tokens v hms.2.1 ts hends hts⟩
  | (key, v) :: m :: rest, hms, ts, hends, hts => by
    have hrest := legible_memberTokens (m :: rest) hms.2.2 ts hends hts
    have hv := legible_tokens v hms.2.1 (.comma :: (memberTokens (m :: rest) ++ ts)) trivial
      ⟨trivial, hrest⟩
    rw [memberTokens, List.append_assoc]
    exact ⟨hms.1, trivial, hv⟩

end

/-! ## The lexer on spaced tokens -/

/-- Blanks are skipped. -/
theorem tokens?_gap {gap : Bytes} (h : Gap gap) (s : Bytes) :
    tokens? .between (gap ++ s) = tokens? .between s := by
  induction gap with
  | nil => rfl
  | cons b gap ih =>
    rw [List.cons_append, tokens?_cons_blank (h b List.mem_cons_self)]
    exact ih fun x hx => h x (List.mem_cons_of_mem b hx)

/-- A number ends where a text of such tokens begins. -/
theorem delimited_of_spaced {ts : List Token} {s : Bytes} (h : Spaced ts s) (hends : Ends ts) :
    Delimited s := by
  cases h with
  | nil hgap =>
    intro b hb
    exact .inr (.inr (.inr (hgap b (List.mem_of_mem_head? hb))))
  | @cons gap rest t ts hgap hrest =>
    cases gap with
    | cons b gap =>
      -- a blank ends the number, whatever the token behind it
      exact delimited_cons (.inr (.inr (.inr (hgap b List.mem_cons_self)))) _
    | nil =>
      cases t with
      | comma => exact delimited_cons (.inl rfl) rest
      | closeBracket => exact delimited_cons (.inr (.inl rfl)) rest
      | closeBrace => exact delimited_cons (.inr (.inr (.inl rfl))) rest
      | openBracket | openBrace | colon | atom v | string w => exact hends.elim

/-- A legible token is found in front of the others. -/
theorem tokens?_token {t : Token} {ts : List Token} {s : Bytes} (ht : t.Legible ts)
    (hs : Spaced ts s) :
    tokens? .between (t.write ++ s) = (tokens? .between s).map (t :: ·) := by
  cases t with
  | openBracket | closeBracket | openBrace | closeBrace | comma | colon =>
    exact tokens?_cons_token rfl s
  | string w => exact tokens?_quoted ht s
  | atom v =>
    cases v with
    | null => exact tokens?_wordFrom (b := 0x6E) (w := ascii "ull") rfl (by decide) s
    | boolean b =>
      cases b with
      | true => exact tokens?_wordFrom (b := 0x74) (w := ascii "rue") rfl (by decide) s
      | false => exact tokens?_wordFrom (b := 0x66) (w := ascii "alse") rfl (by decide) s
    | number w => exact tokens?_numeral ht.1 (delimited_of_spaced hs ht.2)
    | string w | array es | object ms => exact ht.elim

/-- **Lexer**: legible tokens are found in every text of them. -/
theorem tokens?_spaced {ts : List Token} {s : Bytes} (h : Spaced ts s) (hts : Legible ts) :
    tokens? .between s = some ts := by
  induction h with
  | @nil gap hgap =>
    rw [← List.append_nil gap, tokens?_gap hgap]
    rfl
  | cons hgap hrest ih =>
    rw [List.append_assoc, tokens?_gap hgap, tokens?_token hts.1 hrest, ih hts.2]
    rfl

/-- **Layout**: a well-formed value is what every text says that writes it. -/
theorem read?_of_writes {v : Json} {s : Bytes} (hv : WellFormed v) (hs : Writes v s) :
    read? s = some v := by
  have hlegible : Legible (tokens v) := by
    simpa using legible_tokens v hv [] trivial trivial
  rw [read?_eq, tokens?_spaced hs hlegible]
  simp [foldlM_tokens, Reading.accept, Reading.result?]

end FieldBridge.Json
