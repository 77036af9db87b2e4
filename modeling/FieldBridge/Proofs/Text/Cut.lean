/-
  Cutting and trimming texts that are put together of parts.

  1. **Cutting** — a text is cut behind its prefix (`after?_eq_some_iff`), at the first separator
     (`cut?_eq_some_iff`) and at the last one (`getLast?_pieces_eq_some_iff`): the part that must hold no
     separator holds none.  So of two texts put together with the same separator the parts agree
     (`append_sep_inj`).

  2. **Trimming** — a text that begins and ends with other characters keeps them when more is put behind
     it (`trim_append`); what trimming leaves begins and ends with no blank, and only blanks stood around
     it (`trim_eq_iff`).
-/

import Mathlib.Data.List.DropRight
import FieldBridge.Text.Blank

namespace FieldBridge.Text

/-! ## Cutting -/

theorem after?_append (p s : List Char) : after? p (p ++ s) = some s := by
  induction p with
  | nil => cases s <;> rfl
  | cons a p ih => simpa [after?] using ih

theorem append_of_after? {p s rest : List Char} (h : after? p s = some rest) : p ++ rest = s := by
  induction p generalizing s with
  | nil => simpa [after?, eq_comm] using h
  | cons a p ih =>
    cases s with
    | nil => exact absurd h (by simp [after?])
    | cons c s =>
      by_cases hc : a = c
      · rw [after?, if_pos hc] at h
        rw [List.cons_append, ih h, hc]
      · exact absurd h (by simp [after?, hc])

theorem after?_eq_some_iff {p s rest : List Char} : after? p s = some rest ↔ s = p ++ rest := by
  constructor
  · intro h
    exact (append_of_after? h).symm
  · rintro rfl
    exact after?_append p rest

theorem after?_eq_none_iff {p s : List Char} : after? p s = none ↔ ¬ p <+: s := by
  constructor
  · rintro h ⟨rest, rfl⟩
    exact absurd h (by simp [after?_append])
  · intro h
    cases hafter : after? p s with
    | none => rfl
    | some rest => exact absurd ⟨rest, append_of_after? hafter⟩ h

variable {sep : Char}

/-- The first separator is the one behind a part without separators. -/
theorem cut?_append {front : List Char} (h : sep ∉ front) (rest : List Char) :
    cut? sep (front ++ sep :: rest) = some (front, rest) := by
  induction front with
  | nil => simp [cut?]
  | cons c front ih =>
    obtain ⟨hc, hfront⟩ := not_or.1 (List.mem_cons.not.1 h)
    rw [List.cons_append, cut?, if_neg (Ne.symm hc), ih hfront, Option.map_some]

theorem cut?_eq_none_iff {s : List Char} : cut? sep s = none ↔ sep ∉ s := by
  constructor
  · rintro h hmem
    obtain ⟨front, rest, rfl, hfront⟩ := List.eq_append_cons_of_mem hmem
    exact absurd h (by simp [cut?_append hfront])
  · intro h
    cases hcut : cut? sep s with
    | none => rfl
    | some parts =>
      rw [← append_of_cut? hcut] at h
      exact absurd (List.mem_append_right _ List.mem_cons_self) h

theorem cut?_eq_some_iff {s front rest : List Char} :
    cut? sep s = some (front, rest) ↔ sep ∉ front ∧ s = front ++ sep :: rest := by
  constructor
  · intro h
    have hmem : sep ∈ s := by
      rw [← append_of_cut? h]
      exact List.mem_append_right _ List.mem_cons_self
    -- the text is also cut at the first separator it holds
    obtain ⟨first, behind, rfl, hfirst⟩ := List.eq_append_cons_of_mem hmem
    obtain ⟨rfl, rfl⟩ := Prod.mk.inj (Option.some.inj ((cut?_append hfirst behind).symm.trans h))
    exact ⟨hfirst, rfl⟩
  · rintro ⟨hfront, rfl⟩
    exact cut?_append hfront rest

theorem pieces_of_notMem {s : List Char} (h : sep ∉ s) : pieces sep s = [s] := by
  induction s with
  | nil => rfl
  | cons c s ih =>
    obtain ⟨hc, hs⟩ := not_or.1 (List.mem_cons.not.1 h)
    simp only [pieces, if_neg (Ne.symm hc), ih hs]

/-- A separator ends the pieces in front of it and begins those behind. -/
theorem pieces_append (front s : List Char) :
    pieces sep (front ++ sep :: s) = pieces sep front ++ pieces sep s := by
  induction front with
  | nil => simp [pieces]
  | cons c front ih =>
    by_cases hc : c = sep
    · simp [pieces, hc, ih]
    · cases hp : pieces sep front with
      | nil => exact absurd hp (pieces_ne_nil sep front)
      | cons p ps => simp [pieces, hc, ih, hp]

/-- No piece holds a separator. -/
theorem notMem_of_mem_pieces {s piece : List Char} (h : piece ∈ pieces sep s) : sep ∉ piece := by
  induction s generalizing piece with
  | nil =>
    obtain rfl := List.mem_singleton.1 h
    exact List.not_mem_nil
  | cons c s ih =>
    by_cases hc : c = sep
    · rw [pieces, if_pos hc] at h
      rcases List.mem_cons.1 h with rfl | h
      · exact List.not_mem_nil
      · exact ih h
    · cases hp : pieces sep s with
      | nil => exact absurd hp (pieces_ne_nil sep s)
      | cons p ps =>
        simp only [pieces, if_neg hc, hp] at h
        rcases List.mem_cons.1 h with rfl | h
        · have hfirst : sep ∉ p := ih (hp ▸ List.mem_cons_self)
          simp [hfirst, Ne.symm hc]
        · exact ih (hp ▸ List.mem_cons_of_mem p h)

/-- The last piece is what stands behind the last separator. -/
theorem getLast?_pieces_append (front : List Char) {s : List Char} (h : sep ∉ s) :
    (pieces sep (front ++ sep :: s)).getLast? = some s := by
  rw [pieces_append, pieces_of_notMem h, List.getLast?_append, List.getLast?_singleton, Option.some_or]

/-- What stands behind the last separator of a text; the whole text if there is no separator. -/
def IsLast (sep : Char) (s last : List Char) : Prop :=
  sep ∉ last ∧ (s = last ∨ ∃ front, s = front ++ sep :: last)

theorem exists_isLast (sep : Char) (s : List Char) : ∃ last, IsLast sep s last := by
  induction s with
  | nil => exact ⟨[], List.not_mem_nil, Or.inl rfl⟩
  | cons c s ih =>
    obtain ⟨last, hsep, rfl | ⟨front, rfl⟩⟩ := ih
    · by_cases hc : c = sep
      · exact ⟨s, hsep, Or.inr ⟨[], by rw [hc, List.nil_append]⟩⟩
      · exact ⟨c :: s, by simp [hsep, Ne.symm hc], Or.inl rfl⟩
    · exact ⟨last, hsep, Or.inr ⟨c :: front, rfl⟩⟩

theorem getLast?_pieces_of_isLast {s last : List Char} (h : IsLast sep s last) :
    (pieces sep s).getLast? = some last := by
  obtain ⟨hsep, rfl | ⟨front, rfl⟩⟩ := h
  · rw [pieces_of_notMem hsep, List.getLast?_singleton]
  · exact getLast?_pieces_append front hsep

/-- The last piece is what stands behind the last separator, and nothing else is. -/
theorem getLast?_pieces_eq_some_iff {s last : List Char} :
    (pieces sep s).getLast? = some last ↔ IsLast sep s last := by
  constructor
  · intro h
    obtain ⟨last', hlast'⟩ := exists_isLast sep s
    obtain rfl : last' = last := Option.some.inj ((getLast?_pieces_of_isLast hlast').symm.trans h)
    exact hlast'
  · exact getLast?_pieces_of_isLast

/-- Of two texts that end in parts without separators, put behind a separator, both parts agree. -/
theorem append_sep_inj {a b s t : List Char} (hs : sep ∉ s) (ht : sep ∉ t)
    (h : a ++ sep :: s = b ++ sep :: t) : a = b ∧ s = t := by
  have hlast := congrArg (fun u => (pieces sep u).getLast?) h
  simp only [getLast?_pieces_append _ hs, getLast?_pieces_append _ ht, Option.some.injEq] at hlast
  exact ⟨List.append_cancel_right (hlast ▸ h), hlast⟩

/-- What holds of the first characters by their numbers. -/
theorem of_toNat_lt {limit : Nat} {P : Char → Prop} (h : ∀ n < limit, P (Char.ofNat n)) {c : Char}
    (hc : c.toNat < limit) : P c := by
  have hchar := h c.toNat hc
  rwa [Char.ofNat_toNat] at hchar

/-! ## Trimming -/

/-- The blanks behind are those that a search from the end meets first. -/
theorem trimRight_eq_rdropWhile (s : List Char) : trimRight s = s.rdropWhile isBlank := rfl

/-- Nothing is trimmed behind exactly when the last character is no blank. -/
theorem trimRight_eq_self_iff {s : List Char} :
    trimRight s = s ↔ ∀ c ∈ s.getLast?, isBlank c = false := by
  rw [trimRight_eq_rdropWhile, List.rdropWhile_eq_self_iff]
  constructor
  · intro h c hc
    obtain ⟨hne, rfl⟩ := List.mem_getLast?_eq_getLast hc
    exact Bool.eq_false_iff.2 (h hne)
  · intro h hne
    exact Bool.eq_false_iff.1 (h _ (List.getLast?_eq_some_getLast hne))

/-- What is put behind a character that is no blank is trimmed on its own. -/
theorem trimRight_append {front : List Char} {c : Char} (h : isBlank c = false) (s : List Char) :
    trimRight (front ++ c :: s) = front ++ c :: trimRight s := by
  have hfront : trimLeft (c :: front.reverse) = c :: front.reverse := trimLeft_cons_of_not h _
  simp only [trimLeft] at hfront
  simp only [trimRight, trimLeft, List.reverse_append, List.reverse_cons, List.append_assoc,
    List.singleton_append, List.dropWhile_append, hfront]
  split
  · rename_i hempty
    simp [List.isEmpty_iff.1 hempty]
  · simp

/-- A text between characters that are no blanks stays when a text put behind it is trimmed. -/
theorem trim_append {front : List Char} {c : Char} (hfirst : ∀ a ∈ (front ++ [c]).head?, isBlank a = false)
    (hlast : isBlank c = false) (s : List Char) : trim (front ++ c :: s) = front ++ c :: trimRight s := by
  have hleft : trimLeft (front ++ c :: s) = front ++ c :: s := by
    cases front with
    | nil => exact trimLeft_cons_of_not hlast s
    | cons a front => exact trimLeft_cons_of_not (hfirst a rfl) _
  rw [trim, hleft, trimRight_append hlast]

/-- A trimmed text ends with no blank. -/
theorem trim_last {s : List Char} : ∀ c ∈ (trim s).getLast?, isBlank c = false := by
  refine trimRight_eq_self_iff.1 ?_
  simp only [trim, trimRight_eq_rdropWhile, List.rdropWhile_idempotent]

/-- A trimmed text begins with no blank. -/
theorem trim_first {s : List Char} : ∀ c ∈ (trim s).head?, isBlank c = false := by
  cases hleft : trimLeft s with
  | nil => simp [trim, hleft, trimRight]
  | cons a rest =>
    have ha : isBlank a = false := by
      have hhead := List.head?_dropWhile_not isBlank s
      simp only [trimLeft] at hleft
      simpa [hleft] using hhead
    have hkeep : trim s = a :: trimRight rest := by
      have happend : trimRight ([] ++ a :: rest) = [] ++ a :: trimRight rest := trimRight_append ha rest
      rw [trim, hleft]
      exact happend
    simpa [hkeep] using ha

/-- Blanks in front of a text that begins with none are dropped. -/
theorem trimLeft_append {blanks s : List Char} (hblanks : ∀ c ∈ blanks, isBlank c = true)
    (hs : ∀ c ∈ s.head?, isBlank c = false) : trimLeft (blanks ++ s) = s := by
  rw [trimLeft, List.dropWhile_append_of_pos hblanks]
  cases s with
  | nil => rfl
  | cons c s => exact trimLeft_cons_of_not (hs c rfl) s

/-- Blanks behind a text that ends with none are dropped. -/
theorem trimRight_append_blanks {s blanks : List Char} (hblanks : ∀ c ∈ blanks, isBlank c = true)
    (hs : ∀ c ∈ s.getLast?, isBlank c = false) : trimRight (s ++ blanks) = s := by
  have hreverse : trimLeft (blanks.reverse ++ s.reverse) = s.reverse :=
    trimLeft_append (fun c hc => hblanks c (List.mem_reverse.1 hc)) (by simpa using hs)
  rw [trimRight, List.reverse_append, hreverse, List.reverse_reverse]

/-- A text without the blanks around it. -/
structure IsCore (s core : List Char) : Prop where
  within : ∃ front behind, s = front ++ core ++ behind
    ∧ (∀ c ∈ front, isBlank c = true) ∧ ∀ c ∈ behind, isBlank c = true
  first : ∀ c ∈ core.head?, isBlank c = false
  last : ∀ c ∈ core.getLast?, isBlank c = false

/-- **Trimming** takes the blanks around a text, and nothing else. -/
theorem trim_eq_iff {s core : List Char} : trim s = core ↔ IsCore s core := by
  constructor
  · rintro rfl
    refine ⟨⟨s.takeWhile isBlank, (trimLeft s).rtakeWhile isBlank, ?_, ?_, ?_⟩, trim_first, trim_last⟩
    · rw [List.append_assoc, trim, trimRight_eq_rdropWhile, List.rdropWhile_append_rtakeWhile, trimLeft,
        List.takeWhile_append_dropWhile]
    · exact fun c hc => List.mem_takeWhile_imp hc
    · exact fun c hc => List.mem_rtakeWhile_imp hc
  · rintro ⟨⟨front, behind, rfl, hfront, hbehind⟩, hfirst, hlast⟩
    cases core with
    | nil =>
      have hall : ∀ c ∈ front ++ [] ++ behind, isBlank c = true := by
        simpa [or_imp, forall_and] using ⟨hfront, hbehind⟩
      have hleft : trimLeft (front ++ [] ++ behind) = [] := List.dropWhile_eq_nil_iff.2 hall
      rw [trim, hleft]
      rfl
    | cons a core =>
      have hleft : trimLeft (front ++ (a :: core ++ behind)) = a :: core ++ behind :=
        trimLeft_append hfront hfirst
      rw [trim, List.append_assoc, hleft, trimRight_append_blanks hbehind hlast]

/-- Trimming adds no character. -/
theorem mem_of_mem_trim {s : List Char} {c : Char} (h : c ∈ trim s) : c ∈ s := by
  obtain ⟨front, behind, hs, -, -⟩ := (trim_eq_iff.1 (Eq.refl (trim s))).within
  rw [hs]
  exact List.mem_append_left _ (List.mem_append_right _ h)

end FieldBridge.Text
