/-
  JSON values in front of more.

  A number may go on behind what has been read of it, but an array or an object ends with the bracket or
  brace that closes it.

  1. **Behind a value** — no token can follow a complete value, and a text without tokens is blank
     (`tokens?_eq_nil_iff`).  So behind a complete value there may be blanks and nothing else
     (`bind_finish?_complete`).

  2. **Containers** — a text that begins with an opening bracket or brace is complete only between two
     tokens: the reader has left its first state, the only one in which a number is a whole text
     (`eq_of_finish?`).  So what it says does not depend on what follows, as long as that is blank
     (`read?_append`).

  3. **Prefixes** — a written object ends with a byte that is not blank, so no proper prefix of it can be
     read (`read?_prefix`).
-/

import FieldBridge.Proofs.Json.RoundTrip

namespace FieldBridge.Json

open Lexing (tokens?)

/-! ## Within a token -/

/-- A byte completes a token or stands within one. -/
def Advances (o : Option (List Token × Lexing)) : Prop := ∀ p ∈ o, p.1 ≠ [] ∨ p.2 ≠ .between

theorem advances_none : Advances none := by
  intro p hp
  exact absurd hp (by simp)

theorem advances_some {ts : List Token} {l : Lexing} (h : ts ≠ [] ∨ l ≠ .between) :
    Advances (some (ts, l)) := by
  intro p hp
  obtain rfl := Option.some.inj hp
  exact h

theorem advances_map (t : Token) (o : Option (List Token × Lexing)) :
    Advances (o.map fun (ts, l) => (t :: ts, l)) := by
  intro p hp
  obtain ⟨q, -, rfl⟩ := Option.map_eq_some_iff.1 hp
  simp

theorem Advances.ite {c : Prop} [Decidable c] {o o' : Option (List Token × Lexing)} (h : Advances o)
    (h' : Advances o') : Advances (if c then o else o') := by
  split
  · exact h
  · exact h'

/-- Between tokens every byte advances that is not blank. -/
theorem advances_start? {b : UInt8} (hb : isBlank b = false) : Advances (Lexing.start? b) := by
  rw [Lexing.start?, if_neg (by simp [hb])]
  repeat refine .ite (advances_some (by simp)) ?_
  exact advances_none

/-- Within a token every byte does. -/
theorem advances_step? {l : Lexing} (hl : l ≠ .between) (b : UInt8) : Advances (l.step? b) := by
  cases l with
  | between => exact absurd rfl hl
  | string done =>
    refine .ite (advances_some (by simp)) (.ite (advances_some (by simp)) ?_)
    exact .ite advances_none (advances_some (by simp))
  | escape done =>
    exact .ite (advances_some (by simp)) (.ite (advances_some (by simp)) advances_none)
  | digits left done =>
    refine .ite (advances_some (Or.inr ?_)) advances_none
    split <;> simp
  | number d done =>
    rw [Lexing.step?]
    split
    · exact advances_some (by simp)
    · exact .ite (advances_map _ _) advances_none
  | word rest value =>
    rcases rest with _ | ⟨c, _ | ⟨d, rest⟩⟩
    · exact advances_none
    · exact .ite (advances_some (by simp)) advances_none
    · exact .ite (advances_some (by simp)) advances_none

/-- A text whose first byte advances has a token, if every text has one that is read within a token. -/
theorem tokens?_cons_ne_nil {l : Lexing} {b : UInt8} {s : Bytes} (h : Advances (l.step? b))
    (hs : ∀ next, next ≠ .between → tokens? next s ≠ some []) : tokens? l (b :: s) ≠ some [] := by
  intro hnil
  rw [Lexing.tokens?] at hnil
  split at hnil
  · exact absurd hnil (by simp)
  · rename_i ts next hstep
    obtain ⟨us, hus, heq⟩ := Option.map_eq_some_iff.1 hnil
    obtain ⟨rfl, rfl⟩ := List.append_eq_nil_iff.1 heq
    rcases h _ hstep with hts | hnext
    · exact hts rfl
    · exact hs next hnext hus

/-- Within a token at least one token is still to come. -/
theorem tokens?_ne_nil {l : Lexing} (hl : l ≠ .between) (s : Bytes) : tokens? l s ≠ some [] := by
  induction s generalizing l with
  | nil => cases l <;> simp_all [Lexing.tokens?, Lexing.finish?]
  | cons b s ih => exact tokens?_cons_ne_nil (advances_step? hl b) fun next hnext => ih hnext

/-! ## Behind a value -/

/-- Space, line feed, tab and carriage return. -/
def blanks : Bytes := [0x20, 0x0A, 0x09, 0x0D]

theorem isBlank_iff {b : UInt8} : isBlank b = true ↔ b ∈ blanks := by
  simp [isBlank, blanks, or_assoc]

/-- **Blanks**: a text without tokens is blank. -/
theorem tokens?_eq_nil_iff {s : Bytes} : tokens? .between s = some [] ↔ s.all isBlank = true := by
  induction s with
  | nil => simp [Lexing.tokens?, Lexing.finish?]
  | cons b s ih =>
    rw [List.all_cons]
    cases hb : isBlank b with
    | true => simp [tokens?_cons_blank hb, ih]
    | false =>
      have hne := tokens?_cons_ne_nil (l := .between) (advances_start? hb) fun next hnext =>
        tokens?_ne_nil hnext s
      simp [hne]

/-- No token can stand behind a complete value. -/
theorem foldlM_complete (v : Json) {ts : List Token} (h : ts ≠ []) :
    ts.foldlM Reading.step? (.complete v) = none := by
  obtain ⟨t, ts, rfl⟩ := List.exists_cons_of_ne_nil h
  have hstep : Reading.step? (.complete v) t = none := by
    cases t <;> rfl
  rw [List.foldlM_cons, hstep]
  rfl

/-- Behind a complete value there may be blanks and nothing else. -/
theorem bind_finish?_complete (v : Json) (s : Bytes) :
    ((Machine.mk .between (.complete v)).run? s).bind Machine.finish?
      = if s.all isBlank then some v else none := by
  rw [bind_finish?_run?]
  split
  · rename_i hblank
    rw [tokens?_eq_nil_iff.2 hblank]
    rfl
  · rename_i hblank
    cases hts : tokens? .between s with
    | none => rfl
    | some ts =>
      have hne : ts ≠ [] := by
        rintro rfl
        exact hblank (tokens?_eq_nil_iff.1 hts)
      simp only [Option.bind_some, foldlM_complete v hne, Option.bind_none]

/-! ## Containers -/

theorem accept_ne_first (v : Json) (stack : List Frame) : Reading.accept v stack ≠ .value [] := by
  cases stack with
  | nil => simp [Reading.accept]
  | cons f stack => cases f <;> simp [Reading.accept]

theorem begin?_ne_first {stack : List Frame} {t : Token} {next : Reading}
    (h : Reading.begin? stack t = some next) : next ≠ .value [] := by
  cases t with
  | openBracket | openBrace =>
    obtain rfl := Option.some.inj h
    simp
  | atom v | string w =>
    obtain rfl := Option.some.inj h
    exact accept_ne_first _ stack
  | closeBracket | closeBrace | comma | colon => exact absurd h (by simp [Reading.begin?])

/-- No token leads back to the first state. -/
theorem step?_ne_first {r next : Reading} {t : Token} (h : r.step? t = some next) :
    next ≠ .value [] := by
  unfold Reading.step? at h
  split at h
  case h_1 | h_3 => exact begin?_ne_first h
  case h_2 | h_5 | h_6 | h_11 =>
    obtain rfl := Option.some.inj h
    exact accept_ne_first _ _
  case h_4 | h_7 | h_8 | h_9 | h_10 =>
    obtain rfl := Option.some.inj h
    simp
  case h_12 => exact absurd h (by simp)

theorem foldlM_ne_first {r last : Reading} {ts : List Token} (hr : r ≠ .value [])
    (h : ts.foldlM Reading.step? r = some last) : last ≠ .value [] := by
  induction ts generalizing r with
  | nil =>
    obtain rfl := Option.some.inj h
    exact hr
  | cons t ts ih =>
    rw [List.foldlM_cons] at h
    obtain ⟨next, hstep, hrest⟩ := Option.bind_eq_some_iff.1 h
    exact ih (step?_ne_first hstep) hrest

/-- Nor does any byte. -/
theorem run?_ne_first {m last : Machine} {s : Bytes} (hm : m.reading ≠ .value [])
    (h : m.run? s = some last) : last.reading ≠ .value [] := by
  induction s generalizing m with
  | nil =>
    obtain rfl := Option.some.inj h
    exact hm
  | cons b s ih =>
    obtain ⟨next, hstep, hrest⟩ := Option.bind_eq_some_iff.1 (show (m.step? b).bind _ = _ from h)
    refine ih ?_ hrest
    obtain ⟨⟨ts, l⟩, -, hnext⟩ := Option.bind_eq_some_iff.1 hstep
    obtain ⟨r, hfold, heq⟩ := Option.bind_eq_some_iff.1 hnext
    obtain rfl := Option.some.inj heq
    exact foldlM_ne_first hm hfold

/-- Only in the first state a value without parts is the whole. -/
theorem eq_first_of_step?_atom {r : Reading} {v w : Json} (h : r.step? (.atom v) = some (.complete w)) :
    r = .value [] := by
  cases r with
  | value stack | firstElement stack =>
    cases stack with
    | nil => first | rfl | simp [Reading.step?, Reading.begin?, Reading.accept] at h
    | cons f stack => cases f <;> simp [Reading.step?, Reading.begin?, Reading.accept] at h
  | _ => simp [Reading.step?] at h

/-- Where a text may end behind the first state, it ends between two tokens. -/
theorem eq_of_finish? {m : Machine} {v : Json} (hm : m.reading ≠ .value [])
    (h : m.finish? = some v) : m = ⟨.between, .complete v⟩ := by
  obtain ⟨l, r⟩ := m
  rw [finish?_eq] at h
  obtain ⟨ts, hfinish, h⟩ := Option.bind_eq_some_iff.1 h
  obtain ⟨last, hfold, hresult⟩ := Option.bind_eq_some_iff.1 h
  obtain rfl : last = .complete v := by
    cases last <;> simp_all [Reading.result?]
  cases l with
  | between =>
    obtain rfl := Option.some.inj hfinish
    obtain rfl := Option.some.inj hfold
    rfl
  | number d done =>
    -- a number that ends with the text would be the whole value
    simp only [Lexing.finish?] at hfinish
    split at hfinish
    · obtain rfl := Option.some.inj hfinish
      rw [List.foldlM_cons] at hfold
      obtain ⟨next, hstep, hnext⟩ := Option.bind_eq_some_iff.1 hfold
      obtain rfl := Option.some.inj hnext
      exact absurd (eq_first_of_step?_atom hstep) hm
    · exact absurd hfinish (by simp)
  | string done | escape done | digits left done | word rest value =>
    exact absurd hfinish (by simp [Lexing.finish?])

/-- **Containers**: what a text says that begins with an opening bracket or brace is said in front of blanks,
too, and in front of anything else nothing is said. -/
theorem read?_append {b : UInt8} {s : Bytes} {v : Json} (hb : b = 0x5B ∨ b = 0x7B)
    (h : read? (b :: s) = some v) (t : Bytes) :
    read? (b :: s ++ t) = if t.all isBlank then some v else none := by
  obtain ⟨first, hstep, hfirst⟩ : ∃ m, Machine.start.step? b = some m ∧ m.reading ≠ .value [] := by
    rcases hb with rfl | rfl
    · exact ⟨⟨.between, .firstElement []⟩, rfl, by simp⟩
    · exact ⟨⟨.between, .firstKey []⟩, rfl, by simp⟩
  have hread : ∀ s, read? (b :: s) = (first.run? s).bind Machine.finish? := by
    intro s
    show ((Machine.start.step? b).bind fun m => m.run? s).bind Machine.finish? = _
    rw [hstep, Option.bind_some]
  rw [hread] at h
  obtain ⟨m, hrun, hfinish⟩ := Option.bind_eq_some_iff.1 h
  obtain rfl := eq_of_finish? (run?_ne_first hfirst hrun) hfinish
  have happend : first.run? (s ++ t) = (first.run? s).bind fun m => m.run? t := List.foldlM_append
  rw [List.cons_append, hread, happend, hrun, Option.bind_some, bind_finish?_complete]

/-- **Prefixes**: a written object cannot be read before its last byte. -/
theorem read?_prefix {members : List (Bytes × Json)} (hv : WellFormed (.object members)) {s : Bytes}
    (h : s <+: write (.object members)) (hne : s ≠ write (.object members)) : read? s = none := by
  obtain ⟨t, ht⟩ := h
  cases s with
  | nil => rfl
  | cons b s =>
    obtain rfl : b = 0x7B := (List.cons.inj ht).1
    cases hread : read? (0x7B :: s) with
    | none => rfl
    | some w =>
      -- what is cut off would be blank, but it ends with the closing brace
      have hbrace : 0x7D ∈ t := by
        rcases List.eq_nil_or_concat t with rfl | ⟨front, c, rfl⟩
        · exact absurd (by simpa using ht) hne
        · rw [write, List.concat_eq_append, ← List.append_assoc] at ht
          obtain rfl : c = 0x7D := by simpa using (List.append_inj' ht rfl).2
          simp
      have hwhole := read?_append (Or.inr rfl) hread t
      have hblank : ¬ t.all isBlank = true := by
        intro hall
        exact absurd (List.all_eq_true.1 hall _ hbrace) (by decide)
      rw [ht, read?_write hv, if_neg hblank] at hwhole
      exact absurd hwhole (by simp)

end FieldBridge.Json
