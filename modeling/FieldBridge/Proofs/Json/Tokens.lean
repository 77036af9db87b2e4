/-
  The tokens of JSON values.

  1. **Two stages** — the machine that reads a text is a lexer followed by a pushdown reader.  `tokens?`
     is what the lexer makes of a whole text, and reading a text is reading its tokens (`read?_eq`).

  2. **Reader** — the tokens of a value (`tokens`) are read as that value, whatever is still open around
     it (`foldlM_tokens`).

  3. **Lexer** — a string, a number or a word is one token, whatever follows it.  Only behind a number
     does it matter what follows: it has to be a byte that ends a number (`Delimited`).

  Which values are well formed is said without the lexer (`WellFormed`): numbers by their grammar, strings
  and keys by what may stand between quotes.
-/

import FieldBridge.Json.Reader
import FieldBridge.Proofs.Json.Numbers
import FieldBridge.Proofs.Json.Strings

namespace FieldBridge.Json

/-! ## Lexer and reader, one after the other -/

/-- The tokens of a text, read from a state of the lexer. -/
def Lexing.tokens? : Lexing → Bytes → Option (List Token)
  | l, [] => l.finish?
  | l, b :: s => match l.step? b with
    | none => none
    | some (ts, l) => (l.tokens? s).map (ts ++ ·)

/-- The value that a reader has completed. -/
def Reading.result? : Reading → Option Json
  | .complete v => some v
  | _ => none

open Lexing (tokens?)

theorem finish?_eq (m : Machine) :
    m.finish? = m.lexing.finish?.bind fun ts =>
      (ts.foldlM Reading.step? m.reading).bind Reading.result? := by
  unfold Machine.finish?
  cases m.lexing.finish? with
  | none => rfl
  | some ts =>
    simp only [Option.bind_eq_bind, Option.bind_some]
    cases ts.foldlM Reading.step? m.reading with
    | none => rfl
    | some r => cases r <;> rfl

/-- Reading on a text is reading on its tokens. -/
theorem bind_finish?_run? (m : Machine) (s : Bytes) :
    (m.run? s).bind Machine.finish? = (tokens? m.lexing s).bind fun ts =>
      (ts.foldlM Reading.step? m.reading).bind Reading.result? := by
  induction s generalizing m with
  | nil => exact finish?_eq m
  | cons b s ih =>
    have hrun : m.run? (b :: s) = (m.step? b).bind fun m => m.run? s := rfl
    rw [hrun, Lexing.tokens?, Machine.step?]
    cases m.lexing.step? b with
    | none => rfl
    | some p =>
      obtain ⟨ts, l⟩ := p
      simp only [Option.bind_eq_bind, Option.bind_some]
      cases hr : ts.foldlM Reading.step? m.reading with
      | none =>
        cases h : tokens? l s with
        | none => rfl
        | some us => simp [hr]
      | some r =>
        simp only [Option.bind_some]
        rw [ih ⟨l, r⟩]
        cases h : tokens? l s with
        | none => rfl
        | some us => simp [hr]

/-- Reading a text is reading its tokens. -/
theorem read?_eq (s : Bytes) :
    read? s = (tokens? .between s).bind fun ts =>
      (ts.foldlM Reading.step? (.value [])).bind Reading.result? :=
  bind_finish?_run? Machine.start s

/-! ## The tokens of a value -/

mutual

/-- The tokens of a value. -/
def tokens : Json → List Token
  | .null => [.atom .null]
  | .boolean b => [.atom (.boolean b)]
  | .number w => [.atom (.number w)]
  | .string w => [.string w]
  | .array elements => .openBracket :: elementTokens elements ++ [.closeBracket]
  | .object members => .openBrace :: memberTokens members ++ [.closeBrace]

/-- The tokens of values separated by commas. -/
def elementTokens : List Json → List Token
  | [] => []
  | [v] => tokens v
  | v :: w :: rest => tokens v ++ .comma :: elementTokens (w :: rest)

/-- The tokens of members separated by commas. -/
def memberTokens : List (Bytes × Json) → List Token
  | [] => []
  | [(key, v)] => .string key :: .colon :: tokens v
  | (key, v) :: m :: rest =>
    .string key :: .colon :: tokens v ++ .comma :: memberTokens (m :: rest)

end

/-- A value starts with a token at which a list of elements does not end. -/
theorem tokens_eq_cons (v : Json) : ∃ t ts, tokens v = t :: ts ∧ t ≠ .closeBracket := by
  cases v <;> exact ⟨_, _, rfl, by simp⟩

/-- Behind an opening bracket, the tokens of a value are read as those of the first element. -/
theorem foldlM_firstElement (v : Json) (ts : List Token) (stack : List Frame) :
    (tokens v ++ ts).foldlM Reading.step? (.firstElement stack)
      = (tokens v ++ ts).foldlM Reading.step? (.value (.array [] :: stack)) := by
  obtain ⟨t, us, htokens, ht⟩ := tokens_eq_cons v
  rw [htokens, List.cons_append, List.foldlM_cons, List.foldlM_cons]
  cases t with
  | closeBracket => exact absurd rfl ht
  | _ => rfl

mutual

/-- **Reader**: the tokens of a value are read as the value, which goes into what is open around it. -/
theorem foldlM_tokens : ∀ (v : Json) (stack : List Frame),
    (tokens v).foldlM Reading.step? (.value stack) = some (Reading.accept v stack)
  | .null, stack => rfl
  | .boolean b, stack => rfl
  | .number w, stack => rfl
  | .string w, stack => rfl
  | .array [], stack => rfl
  | .array (v :: rest), stack => by
    -- behind the bracket the list might end, which no token that starts a value does
    have helements := foldlM_elementTokens (v :: rest) [] stack (by simp)
    have hfirst : (elementTokens (v :: rest)).foldlM Reading.step? (.firstElement stack)
        = (elementTokens (v :: rest)).foldlM Reading.step? (.value (.array [] :: stack)) := by
      cases rest with
      | nil => simpa [elementTokens] using foldlM_firstElement v [] stack
      | cons w rest => exact foldlM_firstElement v _ stack
    have hopen : Reading.step? (.value stack) .openBracket = some (.firstElement stack) := rfl
    rw [tokens, List.cons_append, List.foldlM_cons, hopen]
    simp only [Option.bind_eq_bind, Option.bind_some, List.foldlM_append, hfirst, helements]
    simp [Reading.step?]
  | .object [], stack => rfl
  | .object ((key, v) :: rest), stack => by
    have hmembers := foldlM_memberTokens ((key, v) :: rest) [] stack (by simp)
    have hfirst : (memberTokens ((key, v) :: rest)).foldlM Reading.step? (.firstKey stack)
        = (memberTokens ((key, v) :: rest)).foldlM Reading.step? (.nextKey [] stack) := by
      cases rest <;> rfl
    have hopen : Reading.step? (.value stack) .openBrace = some (.firstKey stack) := rfl
    rw [tokens, List.cons_append, List.foldlM_cons, hopen]
    simp only [Option.bind_eq_bind, Option.bind_some, List.foldlM_append, hfirst, hmembers]
    simp [Reading.step?]

/-- The tokens of elements are read as these elements, behind those read before. -/
theorem foldlM_elementTokens : ∀ (es done : List Json) (stack : List Frame), es ≠ [] →
    (elementTokens es).foldlM Reading.step? (.value (.array done :: stack))
      = some (.nextElement (es.reverse ++ done) stack)
  | [], _, _, h => absurd rfl h
  | [v], done, stack, _ => foldlM_tokens v (.array done :: stack)
  | v :: w :: rest, done, stack, _ => by
    have hv := foldlM_tokens v (.array done :: stack)
    have hrest := foldlM_elementTokens (w :: rest) (v :: done) stack (by simp)
    rw [elementTokens, List.foldlM_append, hv]
    simp only [Option.bind_eq_bind, Option.bind_some, List.foldlM_cons, Reading.accept,
      Reading.step?, hrest]
    simp

/-- The tokens of members are read as these members, behind those read before. -/
theorem foldlM_memberTokens : ∀ (ms done : List (Bytes × Json)) (stack : List Frame), ms ≠ [] →
    (memberTokens ms).foldlM Reading.step? (.nextKey done stack)
      = some (.nextMember (ms.reverse ++ done) stack)
  | [], _, _, h => absurd rfl h
  | [(key, v)], done, stack, _ => foldlM_tokens v (.member done key :: stack)
  | (key, v) :: m :: rest, done, stack, _ => by
    have hv := foldlM_tokens v (.member done key :: stack)
    have hrest := foldlM_memberTokens (m :: rest) ((key, v) :: done) stack (by simp)
    have hkey : Reading.step? (.nextKey done stack) (.string key)
        = some (.colon done key stack) := rfl
    rw [memberTokens, List.cons_append, List.cons_append, List.foldlM_cons, hkey]
    simp only [Option.bind_eq_bind, Option.bind_some, List.foldlM_cons, List.foldlM_append,
      hv, Reading.accept, Reading.step?, hrest]
    simp

end

/-! ## Well-formed values -/

/-- What may stand between quotes. -/
inductive Quotable : Bytes → Prop where
  | nil : Quotable []
  | plain {b : UInt8} {w : Bytes} : 0x20 ≤ b.toNat → b ≠ 0x22 → b ≠ 0x5C → Quotable w →
      Quotable (b :: w)
  | letter {l : UInt8} {w : Bytes} : (letter? l).isSome → l ≠ 0x75 → Quotable w →
      Quotable (0x5C :: l :: w)
  | digits {a b c d : UInt8} {w : Bytes} :
      (∀ x ∈ [a, b, c, d], (Hex.digit? (Char.ofNat x.toNat)).isSome) → Quotable w →
      Quotable (0x5C :: 0x75 :: a :: b :: c :: d :: w)

mutual

/-- Every number in a value follows the grammar, and every string and key can stand between quotes. -/
def WellFormed : Json → Prop
  | .null => True
  | .boolean _ => True
  | .number w => IsNumber w
  | .string w => Quotable w
  | .array elements => WellFormedElements elements
  | .object members => WellFormedMembers members

def WellFormedElements : List Json → Prop
  | [] => True
  | v :: rest => WellFormed v ∧ WellFormedElements rest

def WellFormedMembers : List (Bytes × Json) → Prop
  | [] => True
  | (key, v) :: rest => Quotable key ∧ WellFormed v ∧ WellFormedMembers rest

end

theorem Quotable.append_plain {u w : Bytes}
    (h : ∀ b ∈ u, 0x20 ≤ b.toNat ∧ b ≠ 0x22 ∧ b ≠ 0x5C) (hw : Quotable w) : Quotable (u ++ w) := by
  induction u with
  | nil => exact hw
  | cons b u ih =>
    obtain ⟨hlow, hquote, hslash⟩ := h b List.mem_cons_self
    exact .plain hlow hquote hslash (ih fun x hx => h x (List.mem_cons_of_mem b hx))

/-- Every text can stand between quotes once it is written. -/
theorem quotable_escape (t : List Char) : Quotable (escape t) := by
  induction t with
  | nil => exact .nil
  | cons c t ih =>
    have hcons : escape (c :: t) = escapeChar c ++ escape t := rfl
    rw [hcons]
    have hesc := escaped_escapeChar c
    generalize escapeChar c = w at hesc
    cases hesc with
    | letter hletter _ hu => exact .letter (by simp [hletter]) hu ih
    | digits _ _ hd he =>
      refine .digits ?_ ih
      simp only [List.forall_mem_cons]
      exact ⟨by decide, by decide, hd, he, by simp⟩
    | plain hplain => exact ih.append_plain hplain

/-! ## The lexer on written values -/

/-- A byte at which a number ends, or the end of the text. -/
def Delimited (s : Bytes) : Prop :=
  ∀ b ∈ s.head?, b = 0x2C ∨ b = 0x5D ∨ b = 0x7D ∨ isBlank b = true

theorem delimited_cons {b : UInt8} (h : b = 0x2C ∨ b = 0x5D ∨ b = 0x7D ∨ isBlank b = true)
    (s : Bytes) : Delimited (b :: s) := by
  intro x hx
  obtain rfl : b = x := Option.some.inj hx
  exact h

/-- A number does not go on over a byte at which it ends. -/
theorem Digits.next?_delimiter (d : Digits) {b : UInt8}
    (h : b = 0x2C ∨ b = 0x5D ∨ b = 0x7D ∨ isBlank b = true) : d.next? b = none := by
  rcases h with rfl | rfl | rfl | hb
  · cases d <;> rfl
  · cases d <;> rfl
  · cases d <;> rfl
  · simp only [isBlank, Bool.or_eq_true, decide_eq_true_eq] at hb
    rcases hb with ((rfl | rfl) | rfl) | rfl <;> cases d <;> rfl

/-- A byte that completes no token only moves the lexer on. -/
theorem tokens?_cons {l next : Lexing} {b : UInt8} (h : l.step? b = some ([], next)) (s : Bytes) :
    tokens? l (b :: s) = tokens? next s := by
  rw [Lexing.tokens?, h]
  simp

/-- Between tokens a blank is skipped. -/
theorem tokens?_cons_blank {b : UInt8} (h : isBlank b = true) (s : Bytes) :
    tokens? .between (b :: s) = tokens? .between s :=
  tokens?_cons (by simp [Lexing.step?, Lexing.start?, h]) s

/-- A byte that completes a token and stands alone. -/
theorem tokens?_cons_token {l : Lexing} {b : UInt8} {t : Token}
    (h : l.step? b = some ([t], .between)) (s : Bytes) :
    tokens? l (b :: s) = (tokens? .between s).map (t :: ·) := by
  rw [Lexing.tokens?, h]
  rfl

/-- A digit of an escape is collected. -/
theorem step?_digit {x : UInt8} (h : (Hex.digit? (Char.ofNat x.toNat)).isSome) (left : Nat)
    (done : Bytes) :
    (Lexing.digits (left + 2) done).step? x = some ([], .digits (left + 1) (x :: done)) := by
  simp [Lexing.step?, h]

/-- The last digit of an escape leads back to the string. -/
theorem step?_lastDigit {x : UInt8} (h : (Hex.digit? (Char.ofNat x.toNat)).isSome) (done : Bytes) :
    (Lexing.digits 1 done).step? x = some ([], .string (x :: done)) := by
  simp [Lexing.step?, h]

/-- What may stand between quotes is collected as it is. -/
theorem tokens?_string {w : Bytes} (h : Quotable w) (done s : Bytes) :
    tokens? (.string done) (w ++ s) = tokens? (.string (w.reverse ++ done)) s := by
  induction h generalizing done with
  | nil => rfl
  | @plain b w hlow hquote hslash _ ih =>
    have hb : ¬ b < 0x20 := by
      rw [UInt8.lt_iff_toNat_lt]
      exact Nat.not_lt.2 hlow
    have hstep : (Lexing.string done).step? b = some ([], .string (b :: done)) := by
      simp [Lexing.step?, hquote, hslash, hb]
    rw [List.cons_append, tokens?_cons hstep, ih]
    simp
  | @letter l w hletter hu _ ih =>
    have hslash : (Lexing.string done).step? 0x5C = some ([], .escape (0x5C :: done)) := rfl
    have hstep : (Lexing.escape (0x5C :: done)).step? l
        = some ([], .string (l :: 0x5C :: done)) := by
      simp [Lexing.step?, hu, hletter]
    rw [List.cons_append, List.cons_append, tokens?_cons hslash, tokens?_cons hstep, ih]
    simp
  | @digits a b c d w hdigits _ ih =>
    simp only [List.forall_mem_cons] at hdigits
    obtain ⟨ha, hb, hc, hd, -⟩ := hdigits
    have hslash : (Lexing.string done).step? 0x5C = some ([], .escape (0x5C :: done)) := rfl
    have hu : (Lexing.escape (0x5C :: done)).step? 0x75
        = some ([], .digits 4 (0x75 :: 0x5C :: done)) := rfl
    simp only [List.cons_append]
    rw [tokens?_cons hslash, tokens?_cons hu, tokens?_cons (step?_digit ha 2 _),
      tokens?_cons (step?_digit hb 1 _), tokens?_cons (step?_digit hc 0 _),
      tokens?_cons (step?_lastDigit hd _), ih]
    simp

/-- A string in quotes is one token. -/
theorem tokens?_quoted {w : Bytes} (h : Quotable w) (s : Bytes) :
    tokens? .between (quoted w ++ s) = (tokens? .between s).map (Token.string w :: ·) := by
  have hopen : Lexing.between.step? 0x22 = some ([], .string []) := rfl
  have hclose : (Lexing.string w.reverse).step? 0x22 = some ([.string w], .between) := by
    simp [Lexing.step?]
  have hquoted : quoted w ++ s = 0x22 :: (w ++ 0x22 :: s) := by simp [quoted]
  rw [hquoted, tokens?_cons hopen, tokens?_string h, List.append_nil, tokens?_cons_token hclose]

/-- A number goes on to a byte at which it ends. -/
theorem tokens?_number {w : Bytes} {d e : Digits} (hrun : d.run? w = some e)
    (hend : e.complete = true) {s : Bytes} (hs : Delimited s) (done : Bytes) :
    tokens? (.number d done) (w ++ s)
      = (tokens? .between s).map (Token.atom (.number (done.reverse ++ w)) :: ·) := by
  induction w generalizing d done with
  | nil =>
    obtain rfl : d = e := Option.some.inj hrun
    cases s with
    | nil => simp [Lexing.tokens?, Lexing.finish?, hend]
    | cons b s =>
      -- the byte is read once more, as the start of what follows
      have hnext := d.next?_delimiter (hs b rfl)
      simp only [List.nil_append, Lexing.tokens?, Lexing.step?, hnext, hend, if_true]
      cases Lexing.start? b with
      | none => rfl
      | some p => simp [Function.comp_def]
  | cons b w ih =>
    rw [Digits.run?] at hrun
    obtain ⟨d', hnext, hrun'⟩ := Option.bind_eq_some_iff.1 hrun
    have hstep : (Lexing.number d done).step? b = some ([], .number d' (b :: done)) := by
      simp [Lexing.step?, hnext]
    rw [List.cons_append, tokens?_cons hstep, ih hrun']
    simp

/-- The first byte of a number starts it. -/
theorem step?_first {b : UInt8} {d : Digits} (h : Digits.first? b = some d) :
    Lexing.between.step? b = some ([], .number d [b]) := by
  unfold Digits.first? at h
  split at h
  · rename_i hb
    subst hb
    rw [← Option.some.inj h]
    rfl
  split at h
  · rename_i hb
    subst hb
    rw [← Option.some.inj h]
    rfl
  split at h
  · rename_i hminus hzero hdigit
    rw [← Option.some.inj h]
    have hnot : ∀ x : UInt8, x.toNat < 0x30 ∨ 0x3A ≤ x.toNat → b ≠ x := by
      rintro x hx rfl
      simp only [isDigit, Bool.and_eq_true, decide_eq_true_eq, UInt8.le_iff_toNat_le,
        UInt8.lt_iff_toNat_lt] at hdigit
      have hlow : 0x30 ≤ b.toNat := hdigit.1
      have hhigh : b.toNat < 0x3A := hdigit.2
      omega
    simp [Lexing.step?, Lexing.start?, isBlank, hminus, hzero, hdigit, hnot]
  · exact absurd h (by simp)

/-- A number in front of a byte that ends it is one token. -/
theorem tokens?_numeral {w : Bytes} (h : IsNumber w) {s : Bytes} (hs : Delimited s) :
    tokens? .between (w ++ s) = (tokens? .between s).map (Token.atom (.number w) :: ·) := by
  have hnumeral : Numeral w := numeral_iff.2 h
  cases w with
  | nil => exact hnumeral.elim
  | cons b w =>
    obtain ⟨d, hfirst, e, hrun, hend⟩ := hnumeral
    rw [List.cons_append, tokens?_cons (step?_first hfirst), tokens?_number hrun hend hs]
    simp

/-- A word is one token. -/
theorem tokens?_word {w : Bytes} (h : w ≠ []) (v : Json) (s : Bytes) :
    tokens? (.word w v) (w ++ s) = (tokens? .between s).map (Token.atom v :: ·) := by
  induction w with
  | nil => exact absurd rfl h
  | cons b w ih =>
    cases w with
    | nil =>
      have hstep : (Lexing.word [b] v).step? b = some ([.atom v], .between) := by
        simp [Lexing.step?]
      exact tokens?_cons_token hstep s
    | cons c w =>
      have hstep : (Lexing.word (b :: c :: w) v).step? b = some ([], .word (c :: w) v) := by
        simp [Lexing.step?]
      rw [List.cons_append, tokens?_cons hstep, ih (by simp)]

theorem tokens?_wordFrom {b : UInt8} {w : Bytes} {v : Json}
    (h : Lexing.between.step? b = some ([], .word w v)) (hw : w ≠ []) (s : Bytes) :
    tokens? .between (b :: w ++ s) = (tokens? .between s).map (Token.atom v :: ·) := by
  rw [List.cons_append, tokens?_cons h, tokens?_word hw]

end FieldBridge.Json
