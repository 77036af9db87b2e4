/-
  Numbers of JSON.

  Problem: the lexer follows a number byte by byte through eight states, and takes it if it may end in the
  last (`Numeral`).  Said without states, a number is an optional minus, digits without a zero in front of
  others, an optional fraction and an optional exponent (`IsNumber`).

  1. **States** — `d.Accepts w`: a number that has got as far as `d` may go on over `w` and end there.
     Each state accepts one part of the grammar and what may follow that part.

  2. **Digits** — a state that stays as it is over digits accepts some of them and then what it accepts
     without a digit (`accepts_loop`); a state that needs a digit leads to such a state (`accepts_first`).

  From the last state back to the first, the lexer's numbers are those of the grammar (`numeral_iff`).
-/

import FieldBridge.Json.Token

namespace FieldBridge.Json

/-! ## Grammar -/

/-- Digits, or nothing. -/
def AllDigits (w : Bytes) : Prop := ∀ b ∈ w, isDigit b = true

/-- Digits, at least one. -/
def IsDigits (w : Bytes) : Prop := w ≠ [] ∧ AllDigits w

/-- Zero, or digits that do not begin with it. -/
inductive IsWhole : Bytes → Prop where
  | zero : IsWhole [0x30]
  | digits {b : UInt8} {w : Bytes} : isDigit b = true → b ≠ 0x30 → AllDigits w → IsWhole (b :: w)

/-- Nothing, or a point and digits. -/
inductive IsFraction : Bytes → Prop where
  | none : IsFraction []
  | digits {w : Bytes} : IsDigits w → IsFraction (0x2E :: w)

/-- Digits with or without a sign. -/
inductive IsPower : Bytes → Prop where
  | digits {w : Bytes} : IsDigits w → IsPower w
  | signed {b : UInt8} {w : Bytes} : b = 0x2B ∨ b = 0x2D → IsDigits w → IsPower (b :: w)

/-- Nothing, or a mark and a power. -/
inductive IsExponent : Bytes → Prop where
  | none : IsExponent []
  | power {b : UInt8} {w : Bytes} : b = 0x65 ∨ b = 0x45 → IsPower w → IsExponent (b :: w)

/-- What may follow the whole part. -/
def IsScale (w : Bytes) : Prop :=
  ∃ fraction exponent, IsFraction fraction ∧ IsExponent exponent ∧ w = fraction ++ exponent

/-- A number without its sign. -/
def IsUnsigned (w : Bytes) : Prop := ∃ whole scale, IsWhole whole ∧ IsScale scale ∧ w = whole ++ scale

/-- A number of JSON. -/
inductive IsNumber : Bytes → Prop where
  | unsigned {w : Bytes} : IsUnsigned w → IsNumber w
  | negative {w : Bytes} : IsUnsigned w → IsNumber (0x2D :: w)

/-! ## States -/

/-- How far the first byte of a number gets. -/
def Digits.first? (b : UInt8) : Option Digits :=
  if b = 0x2D then some .sign else if b = 0x30 then some .zero
  else if isDigit b then some .whole else none

/-- How far a number gets over several bytes. -/
def Digits.run? (d : Digits) : Bytes → Option Digits
  | [] => some d
  | b :: w => (d.next? b).bind (·.run? w)

/-- A number that the lexer takes. -/
def Numeral : Bytes → Prop
  | [] => False
  | b :: w => ∃ d ∈ Digits.first? b, ∃ e ∈ d.run? w, e.complete = true

/-- A number that has got so far may go on over these bytes and end there. -/
def Digits.Accepts (d : Digits) (w : Bytes) : Prop := ∃ e ∈ d.run? w, e.complete = true

theorem accepts_nil {d : Digits} : d.Accepts [] ↔ d.complete = true := by
  simp [Digits.Accepts, Digits.run?]

theorem accepts_cons {d : Digits} {b : UInt8} {w : Bytes} :
    d.Accepts (b :: w) ↔ ∃ next ∈ d.next? b, next.Accepts w := by
  simp only [Digits.Accepts, Digits.run?, Option.mem_def, Option.bind_eq_some_iff]
  constructor
  · rintro ⟨e, ⟨next, hnext, hrun⟩, hend⟩
    exact ⟨next, hnext, e, hrun, hend⟩
  · rintro ⟨next, hnext, e, hrun, hend⟩
    exact ⟨e, ⟨next, hnext, hrun⟩, hend⟩

/-- The text does not begin with a digit. -/
def NoDigit (w : Bytes) : Prop := ∀ b ∈ w.head?, isDigit b = false

theorem noDigit_cons {b : UInt8} (h : isDigit b = false) (w : Bytes) : NoDigit (b :: w) := by
  intro x hx
  obtain rfl := Option.some.inj hx
  exact h

/-- A state that stays as it is over digits. -/
theorem accepts_loop {d : Digits} {Rest : Bytes → Prop}
    (hdigit : ∀ b, isDigit b = true → d.next? b = some d)
    (hrest : ∀ w, NoDigit w → (d.Accepts w ↔ Rest w)) (hstart : ∀ w, Rest w → NoDigit w)
    (w : Bytes) : d.Accepts w ↔ ∃ ds rest, AllDigits ds ∧ Rest rest ∧ w = ds ++ rest := by
  constructor
  · intro h
    induction w with
    | nil => exact ⟨[], [], by simp [AllDigits], (hrest [] (by simp [NoDigit])).1 h, rfl⟩
    | cons b w ih =>
      cases hb : isDigit b with
      | false => exact ⟨[], b :: w, by simp [AllDigits], (hrest _ (noDigit_cons hb w)).1 h, rfl⟩
      | true =>
        obtain ⟨next, hnext, hw⟩ := accepts_cons.1 h
        obtain rfl := Option.some.inj ((hdigit b hb).symm.trans hnext)
        obtain ⟨ds, rest, hds, hr, rfl⟩ := ih hw
        exact ⟨b :: ds, rest, List.forall_mem_cons.2 ⟨hb, hds⟩, hr, rfl⟩
  · rintro ⟨ds, rest, hds, hr, rfl⟩
    induction ds with
    | nil => exact (hrest rest (hstart rest hr)).2 hr
    | cons b ds ih =>
      obtain ⟨hb, hds⟩ := List.forall_mem_cons.1 hds
      exact accepts_cons.2 ⟨d, hdigit b hb, ih hds⟩

/-- A state that needs a digit. -/
theorem accepts_first {d loop : Digits} {Rest : Bytes → Prop} (hnot : d.complete = false)
    (hnext : ∀ b, d.next? b = if isDigit b then some loop else none)
    (hloop : ∀ w, loop.Accepts w ↔ ∃ ds rest, AllDigits ds ∧ Rest rest ∧ w = ds ++ rest)
    (w : Bytes) : d.Accepts w ↔ ∃ ds rest, IsDigits ds ∧ Rest rest ∧ w = ds ++ rest := by
  constructor
  · intro h
    cases w with
    | nil => exact absurd (accepts_nil.1 h) (by simp [hnot])
    | cons b w =>
      obtain ⟨next, hb, hw⟩ := accepts_cons.1 h
      rw [hnext b] at hb
      split at hb
      · rename_i hdigit
        obtain rfl := Option.some.inj hb
        obtain ⟨ds, rest, hds, hr, rfl⟩ := (hloop w).1 hw
        exact ⟨b :: ds, rest, ⟨by simp, List.forall_mem_cons.2 ⟨hdigit, hds⟩⟩, hr, rfl⟩
      · exact absurd hb (by simp)
  · rintro ⟨ds, rest, ⟨hne, hds⟩, hr, rfl⟩
    obtain ⟨b, ds, rfl⟩ := List.exists_cons_of_ne_nil hne
    obtain ⟨hdigit, hds⟩ := List.forall_mem_cons.1 hds
    refine accepts_cons.2 ⟨loop, ?_, (hloop _).2 ⟨ds, rest, hds, hr, rfl⟩⟩
    rw [hnext b, if_pos hdigit]
    rfl

theorem IsExponent.noDigit {w : Bytes} (h : IsExponent w) : NoDigit w := by
  cases h with
  | none => simp [NoDigit]
  | power hb _ =>
    refine noDigit_cons ?_ _
    rcases hb with rfl | rfl <;> decide

theorem IsScale.noDigit {w : Bytes} (h : IsScale w) : NoDigit w := by
  obtain ⟨fraction, exponent, hfraction, hexponent, rfl⟩ := h
  cases hfraction with
  | none => exact hexponent.noDigit
  | digits _ => exact noDigit_cons (by decide) _

/-! ## From the last state to the first -/

theorem accepts_exponent (w : Bytes) :
    Digits.exponent.Accepts w ↔ ∃ ds rest, AllDigits ds ∧ rest = [] ∧ w = ds ++ rest := by
  refine accepts_loop (fun b hb => by simp [Digits.next?, hb]) (fun w hw => ?_)
    (fun w hw => by simp [hw, NoDigit]) w
  cases w with
  | nil => simp [accepts_nil, Digits.complete]
  | cons b w =>
    have hb : isDigit b = false := hw b rfl
    simp [accepts_cons, Digits.next?, hb]

theorem accepts_markSign (w : Bytes) : Digits.markSign.Accepts w ↔ IsDigits w := by
  have hfirst := accepts_first (d := .markSign) rfl (fun _ => rfl) accepts_exponent w
  simpa using hfirst

theorem accepts_mark (w : Bytes) : Digits.mark.Accepts w ↔ IsPower w := by
  constructor
  · intro h
    cases w with
    | nil => exact absurd (accepts_nil.1 h) (by simp [Digits.complete])
    | cons b w =>
      obtain ⟨next, hb, hw⟩ := accepts_cons.1 h
      simp only [Digits.next?, Option.mem_def] at hb
      split at hb
      · rename_i hdigit
        obtain rfl := Option.some.inj hb
        obtain ⟨ds, rest, hds, rfl, rfl⟩ := (accepts_exponent w).1 hw
        rw [List.append_nil]
        exact .digits ⟨by simp, List.forall_mem_cons.2 ⟨hdigit, hds⟩⟩
      split at hb
      · rename_i hsign
        obtain rfl := Option.some.inj hb
        exact .signed hsign ((accepts_markSign w).1 hw)
      · exact absurd hb (by simp)
  · intro h
    cases h with
    | digits hds =>
      obtain ⟨hne, hds⟩ := hds
      obtain ⟨b, ds, rfl⟩ := List.exists_cons_of_ne_nil hne
      obtain ⟨hdigit, hds⟩ := List.forall_mem_cons.1 hds
      exact accepts_cons.2 ⟨.exponent, by simp [Digits.next?, hdigit],
        (accepts_exponent ds).2 ⟨ds, [], hds, rfl, by simp⟩⟩
    | signed hsign hds =>
      refine accepts_cons.2 ⟨.markSign, ?_, (accepts_markSign _).2 hds⟩
      rcases hsign with rfl | rfl <;> rfl

theorem accepts_fraction (w : Bytes) :
    Digits.fraction.Accepts w ↔ ∃ ds rest, AllDigits ds ∧ IsExponent rest ∧ w = ds ++ rest := by
  refine accepts_loop (fun b hb => by simp [Digits.next?, hb]) (fun w hw => ?_)
    (fun w hw => hw.noDigit) w
  cases w with
  | nil => simp [accepts_nil, Digits.complete, IsExponent.none]
  | cons b w =>
    have hb : isDigit b = false := hw b rfl
    constructor
    · intro h
      obtain ⟨next, hnext, hw⟩ := accepts_cons.1 h
      simp only [Digits.next?, hb, Bool.false_eq_true, if_false, Option.mem_def] at hnext
      split at hnext
      · rename_i hmark
        obtain rfl := Option.some.inj hnext
        exact .power hmark ((accepts_mark w).1 hw)
      · exact absurd hnext (by simp)
    · intro h
      cases h with
      | power hmark hpower =>
        exact accepts_cons.2 ⟨.mark, by simp [Digits.next?, hb, hmark], (accepts_mark w).2 hpower⟩

theorem accepts_point (w : Bytes) :
    Digits.point.Accepts w ↔ ∃ ds rest, IsDigits ds ∧ IsExponent rest ∧ w = ds ++ rest :=
  accepts_first rfl (fun _ => rfl) accepts_fraction w

/-- A state in which the whole part may end. -/
theorem accepts_scale {d : Digits} (hend : d.complete = true) {w : Bytes}
    (hnext : ∀ b ∈ w.head?, d.next? b = if b = 0x2E then some .point
      else if b = 0x65 ∨ b = 0x45 then some .mark else none) : d.Accepts w ↔ IsScale w := by
  constructor
  · intro h
    cases w with
    | nil => exact ⟨[], [], .none, .none, rfl⟩
    | cons b w =>
      obtain ⟨next, hb, hw⟩ := accepts_cons.1 h
      rw [hnext b rfl] at hb
      split at hb
      · rename_i hpoint
        obtain rfl := Option.some.inj hb
        obtain ⟨ds, exponent, hds, hexponent, rfl⟩ := (accepts_point w).1 hw
        exact ⟨b :: ds, exponent, hpoint ▸ .digits hds, hexponent, rfl⟩
      split at hb
      · rename_i hmark
        obtain rfl := Option.some.inj hb
        exact ⟨[], b :: w, .none, .power hmark ((accepts_mark w).1 hw), rfl⟩
      · exact absurd hb (by simp)
  · rintro ⟨fraction, exponent, hfraction, hexponent, rfl⟩
    cases hfraction with
    | digits hds =>
      exact accepts_cons.2 ⟨.point, by rw [hnext _ rfl]; rfl,
        (accepts_point _).2 ⟨_, exponent, hds, hexponent, rfl⟩⟩
    | none =>
      cases hexponent with
      | none => exact accepts_nil.2 hend
      | power hmark hpower =>
        refine accepts_cons.2 ⟨.mark, ?_, (accepts_mark _).2 hpower⟩
        rw [hnext _ rfl]
        rcases hmark with rfl | rfl <;> rfl

theorem accepts_zero (w : Bytes) : Digits.zero.Accepts w ↔ IsScale w :=
  accepts_scale rfl fun _ _ => rfl

theorem accepts_whole (w : Bytes) :
    Digits.whole.Accepts w ↔ ∃ ds rest, AllDigits ds ∧ IsScale rest ∧ w = ds ++ rest := by
  refine accepts_loop (fun b hb => by simp [Digits.next?, hb]) (fun w hw => ?_)
    (fun w hw => hw.noDigit) w
  exact accepts_scale rfl fun b hb => by simp [Digits.next?, hw b hb]

/-- The first digit of a number decides whether others may follow. -/
theorem isUnsigned_cons {b : UInt8} {w : Bytes} : IsUnsigned (b :: w)
    ↔ (b = 0x30 ∧ Digits.zero.Accepts w) ∨ (b ≠ 0x30 ∧ isDigit b = true ∧ Digits.whole.Accepts w) := by
  constructor
  · rintro ⟨whole, scale, hwhole, hscale, heq⟩
    cases hwhole with
    | zero =>
      obtain ⟨rfl, rfl⟩ := List.cons.inj heq
      exact .inl ⟨rfl, (accepts_zero _).2 hscale⟩
    | digits hdigit hne hds =>
      obtain ⟨rfl, rfl⟩ := List.cons.inj heq
      exact .inr ⟨hne, hdigit, (accepts_whole _).2 ⟨_, scale, hds, hscale, rfl⟩⟩
  · rintro (⟨rfl, hw⟩ | ⟨hne, hdigit, hw⟩)
    · exact ⟨[0x30], w, .zero, (accepts_zero w).1 hw, rfl⟩
    · obtain ⟨ds, scale, hds, hscale, rfl⟩ := (accepts_whole w).1 hw
      exact ⟨b :: ds, scale, .digits hdigit hne hds, hscale, rfl⟩

theorem not_isUnsigned_nil : ¬ IsUnsigned [] := by
  rintro ⟨whole, scale, hwhole, _, heq⟩
  obtain ⟨rfl, _⟩ := List.append_eq_nil_iff.1 heq.symm
  cases hwhole

theorem accepts_sign (w : Bytes) : Digits.sign.Accepts w ↔ IsUnsigned w := by
  cases w with
  | nil => simp [accepts_nil, Digits.complete, not_isUnsigned_nil]
  | cons b w =>
    rw [isUnsigned_cons, accepts_cons]
    by_cases hzero : b = 0x30
    · simp [Digits.next?, hzero]
    · by_cases hdigit : isDigit b = true
      · simp [Digits.next?, hzero, hdigit]
      · simp [Digits.next?, hzero, hdigit]

/-- **Numbers**: the lexer takes the numbers of the grammar and no others. -/
theorem numeral_iff {w : Bytes} : Numeral w ↔ IsNumber w := by
  constructor
  · intro h
    cases w with
    | nil => exact h.elim
    | cons b w =>
      obtain ⟨d, hfirst, hw⟩ := h
      simp only [Digits.first?, Option.mem_def] at hfirst
      split at hfirst
      · rename_i hminus
        obtain rfl := Option.some.inj hfirst
        rw [hminus]
        exact .negative ((accepts_sign w).1 hw)
      split at hfirst
      · rename_i hzero
        obtain rfl := Option.some.inj hfirst
        exact .unsigned (isUnsigned_cons.2 (.inl ⟨hzero, hw⟩))
      split at hfirst
      · rename_i hne hdigit
        obtain rfl := Option.some.inj hfirst
        exact .unsigned (isUnsigned_cons.2 (.inr ⟨hne, hdigit, hw⟩))
      · exact absurd hfirst (by simp)
  · intro h
    cases h with
    | negative hw => exact ⟨.sign, rfl, (accepts_sign _).2 hw⟩
    | unsigned hw =>
      cases w with
      | nil => exact (not_isUnsigned_nil hw).elim
      | cons b w =>
        rcases isUnsigned_cons.1 hw with ⟨rfl, hrest⟩ | ⟨hne, hdigit, hrest⟩
        · exact ⟨.zero, rfl, hrest⟩
        · have hminus : b ≠ 0x2D := by
            rintro rfl
            exact absurd hdigit (by decide)
          exact ⟨.whole, by simp [Digits.first?, hminus, hne, hdigit], hrest⟩

end FieldBridge.Json
