/-
  Decimal digits read back.

  `value` is the number that digits write.  The three ways of writing a number (`digits`, `fixed`,
  `padded`) have that value, and a run over digits takes exactly them and gives their value, provided that
  it may take no more or that no digit follows (`run_append`).  A text is read as a number exactly if it is
  a numeral of that number, which is within the limit (`parse_eq_ok_iff`).
-/

import FieldBridge.Number.Decimal

namespace FieldBridge.Decimal

/-- The number that digits write. -/
def value (s : List Char) : Nat := s.foldl (fun n c => n * 10 + (digit? c).getD 0) 0

/-- Every character is a digit. -/
def AllDigits (s : List Char) : Prop := ∀ c ∈ s, (digit? c).isSome

instance (s : List Char) : Decidable (AllDigits s) :=
  decidable_of_iff (s.all fun c => (digit? c).isSome) List.all_eq_true

/-- No digit stands at the front. -/
def NoDigit (s : List Char) : Prop := ∀ c ∈ s.head?, digit? c = none

/-! ## Digits -/

theorem digit?_digit {n : Nat} (h : n < 10) : digit? (digit n) = some n := by
  revert n
  decide

theorem value_concat (s : List Char) {n : Nat} (h : n < 10) :
    value (s ++ [digit n]) = value s * 10 + n := by
  simp [value, digit?_digit h]

theorem AllDigits.concat {s : List Char} (hs : AllDigits s) {n : Nat} (h : n < 10) :
    AllDigits (s ++ [digit n]) := by
  intro c hc
  rcases List.mem_append.1 hc with hc | hc
  · exact hs c hc
  · rw [List.mem_singleton.1 hc, digit?_digit h]
    rfl

/-! ## Written numbers -/

theorem allDigits_fixed (width n : Nat) : AllDigits (fixed width n) := by
  induction width generalizing n with
  | zero =>
    intro c hc
    exact absurd hc List.not_mem_nil
  | succ width ih => exact (ih (n / 10)).concat (Nat.mod_lt n (by decide))

theorem length_fixed (width n : Nat) : (fixed width n).length = width := by
  induction width generalizing n with
  | zero => rfl
  | succ width ih => simp [fixed, ih]

/-- A number below the limit of its width is kept whole. -/
theorem value_fixed {width n : Nat} (h : n < Nat.pow 10 width) : value (fixed width n) = n := by
  induction width generalizing n with
  | zero => exact (Nat.lt_one_iff.1 h).symm
  | succ width ih =>
    have hdiv : n / 10 < Nat.pow 10 width :=
      Nat.div_lt_of_lt_mul (by rw [Nat.mul_comm]; exact h)
    rw [fixed, value_concat _ (Nat.mod_lt n (by decide)), ih hdiv]
    omega

theorem allDigits_digits (n : Nat) : AllDigits (digits n) := by
  induction n using digits.induct with
  | case1 n h =>
    intro c hc
    rw [digits, dif_pos h, List.mem_singleton] at hc
    rw [hc, digit?_digit h]
    rfl
  | case2 n h ih =>
    rw [digits, dif_neg h]
    exact ih.concat (Nat.mod_lt n (by decide))

theorem value_digits (n : Nat) : value (digits n) = n := by
  induction n using digits.induct with
  | case1 n h =>
    rw [digits, dif_pos h]
    simp [value, digit?_digit h]
  | case2 n h ih =>
    rw [digits, dif_neg h, value_concat _ (Nat.mod_lt n (by decide)), ih]
    omega

theorem mem_digits {n : Nat} {c : Char} (h : c ∈ digits n) : ∃ d < 10, c = digit d := by
  induction n using digits.induct with
  | case1 n hn =>
    rw [digits, dif_pos hn, List.mem_singleton] at h
    exact ⟨n, hn, h⟩
  | case2 n hn ih =>
    rw [digits, dif_neg hn] at h
    rcases List.mem_append.1 h with hfront | hlast
    · exact ih hfront
    · exact ⟨n % 10, Nat.mod_lt n (by decide), List.mem_singleton.1 hlast⟩

theorem one_le_length_digits (n : Nat) : 1 ≤ (digits n).length := by
  rw [digits]
  split
  · simp
  · simp

/-- A number below a power of ten has at most so many digits. -/
theorem length_digits_le {width n : Nat} (hwidth : 1 ≤ width) (h : n < Nat.pow 10 width) :
    (digits n).length ≤ width := by
  induction width generalizing n with
  | zero => exact absurd hwidth (by decide)
  | succ width ih =>
    rw [digits]
    split
    · simp
    · have hdiv : n / 10 < Nat.pow 10 width :=
        Nat.div_lt_of_lt_mul (by rw [Nat.mul_comm]; exact h)
      have hpos : 1 ≤ width := by
        cases width with
        | zero =>
          have hten : n < 10 := h
          omega
        | succ width => omega
      have hfront := ih hpos hdiv
      simp only [List.length_append, List.length_singleton]
      omega

theorem allDigits_padded (width n : Nat) : AllDigits (padded width n) := by
  intro c hc
  rcases List.mem_append.1 hc with hc | hc
  · rw [(List.mem_replicate.1 hc).2]
    rfl
  · exact allDigits_digits n c hc

/-- Zeros in front do not change a number. -/
theorem value_replicate_append (k : Nat) (s : List Char) :
    value (List.replicate k '0' ++ s) = value s := by
  induction k with
  | zero => rfl
  | succ k ih => exact ih

theorem value_padded (width n : Nat) : value (padded width n) = n :=
  (value_replicate_append _ _).trans (value_digits n)

theorem one_le_length_padded (width n : Nat) : 1 ≤ (padded width n).length := by
  have h := one_le_length_digits n
  simp only [padded, List.length_append]
  omega

/-! ## Runs -/

theorem go_append {s : List Char} (hs : AllDigits s) {rest : List Char} {most : Nat}
    (hmost : s.length ≤ most) (hrest : most = s.length ∨ NoDigit rest) (acc count : Nat) :
    run.go most acc count (s ++ rest)
      = (s.foldl (fun n c => n * 10 + (digit? c).getD 0) acc, count + s.length, rest) := by
  induction s generalizing most acc count with
  | nil =>
    cases most with
    | zero => rfl
    | succ most =>
      rcases hrest with h | h
      · exact absurd h (by simp)
      · cases rest with
        | nil => rfl
        | cons c rest => simp [run.go, h c rfl]
  | cons c s ih =>
    obtain ⟨d, hd⟩ := Option.isSome_iff_exists.1 (hs c List.mem_cons_self)
    obtain ⟨most, rfl⟩ : ∃ k, most = k + 1 := ⟨most - 1, by simp at hmost; omega⟩
    have hrest' : most = s.length ∨ NoDigit rest := by
      rcases hrest with h | h
      · exact Or.inl (by simpa using h)
      · exact Or.inr h
    have htail := ih (fun x hx => hs x (List.mem_cons_of_mem c hx)) (by simpa using hmost) hrest'
      (acc * 10 + d) (count + 1)
    simp only [List.cons_append, run.go, hd, htail, List.foldl_cons, Option.getD_some,
      List.length_cons]
    congr 2
    omega

/-- **Runs**: a run takes the digits at the front, all of them. -/
theorem run_append {s : List Char} (hs : AllDigits s) {rest : List Char} {most : Nat}
    (hmost : s.length ≤ most) (hrest : most = s.length ∨ NoDigit rest) :
    run most (s ++ rest) = (value s, s.length, rest) := by
  rw [run, go_append hs hmost hrest, Nat.zero_add, value]

/-! ## Numerals -/

/-- More digits make no smaller number. -/
theorem le_foldl (acc : Nat) (s : List Char) :
    acc ≤ s.foldl (fun n c => n * 10 + (digit? c).getD 0) acc := by
  induction s generalizing acc with
  | nil => exact Nat.le_refl acc
  | cons c s ih =>
    have hrest := ih (acc * 10 + (digit? c).getD 0)
    rw [List.foldl_cons]
    omega

theorem parseFrom_of_allDigits {s : List Char} (hs : AllDigits s) {limit acc : Nat}
    (h : s.foldl (fun n c => n * 10 + (digit? c).getD 0) acc ≤ limit) :
    parseFrom limit acc s = .ok (s.foldl (fun n c => n * 10 + (digit? c).getD 0) acc) := by
  induction s generalizing acc with
  | nil => rfl
  | cons c s ih =>
    obtain ⟨d, hd⟩ := Option.isSome_iff_exists.1 (hs c List.mem_cons_self)
    rw [List.foldl_cons, hd, Option.getD_some] at h ⊢
    -- the number only grows, so the limit is not exceeded on the way
    have hgrow := le_foldl (acc * 10 + d) s
    simp only [parseFrom, hd, if_neg (Nat.not_lt.2 (Nat.le_trans hgrow h))]
    exact ih (fun x hx => hs x (List.mem_cons_of_mem c hx)) h

/-- Digits without a sign are walked from zero. -/
theorem parse_of_allDigits {s : List Char} (hs : AllDigits s) (hne : s ≠ []) (limit : Nat) :
    parse limit s = parseFrom limit 0 s := by
  cases s with
  | nil => exact absurd rfl hne
  | cons c s =>
    have hc : c ≠ '+' := by
      rintro rfl
      exact absurd (hs '+' List.mem_cons_self) (by decide)
    simp [parse, hc]

/-- Digits whose number exceeds the limit are walked up to the digit at which it does. -/
theorem parseFrom_tooLarge {s : List Char} (hs : AllDigits s) {limit acc : Nat} (hacc : acc ≤ limit)
    (h : limit < s.foldl (fun n c => n * 10 + (digit? c).getD 0) acc) :
    parseFrom limit acc s = .error .tooLarge := by
  induction s generalizing acc with
  | nil =>
    have hnot : ¬ limit < acc := Nat.not_lt.2 hacc
    exact absurd h hnot
  | cons c s ih =>
    obtain ⟨d, hd⟩ := Option.isSome_iff_exists.1 (hs c List.mem_cons_self)
    rw [List.foldl_cons, hd, Option.getD_some] at h
    simp only [parseFrom, hd]
    split
    · rfl
    · rename_i hlimit
      exact ih (fun x hx => hs x (List.mem_cons_of_mem c hx)) (Nat.not_lt.1 hlimit) h

/-- Digits within the limit are read as their number, however many zeros stand in front. -/
theorem parse_of_le {s : List Char} (hs : AllDigits s) (hne : s ≠ []) {limit : Nat}
    (h : value s ≤ limit) : parse limit s = .ok (value s) := by
  rw [parse_of_allDigits hs hne, parseFrom_of_allDigits hs h]
  rfl

/-- Digits beyond the limit are too large. -/
theorem parse_of_lt {s : List Char} (hs : AllDigits s) (hne : s ≠ []) {limit : Nat}
    (h : limit < value s) : parse limit s = .error .tooLarge := by
  rw [parse_of_allDigits hs hne, parseFrom_tooLarge hs (Nat.zero_le limit) h]

/-- What is walked to the end is digits, and gives their number, which is within the limit. -/
theorem parseFrom_sound {s : List Char} {limit acc n : Nat} (hacc : acc ≤ limit)
    (h : parseFrom limit acc s = .ok n) :
    AllDigits s ∧ s.foldl (fun n c => n * 10 + (digit? c).getD 0) acc = n ∧ n ≤ limit := by
  induction s generalizing acc with
  | nil =>
    obtain rfl := Except.ok.inj h
    exact ⟨by simp [AllDigits], rfl, hacc⟩
  | cons c s ih =>
    cases hd : digit? c with
    | none => exact absurd h (by simp [parseFrom, hd])
    | some d =>
      simp only [parseFrom, hd] at h
      split at h
      · exact absurd h (by simp)
      · rename_i hlimit
        obtain ⟨hs, hvalue, hle⟩ := ih (Nat.not_lt.1 hlimit) h
        refine ⟨List.forall_mem_cons.2 ⟨by simp [hd], hs⟩, ?_, hle⟩
        rw [List.foldl_cons, hd]
        exact hvalue

/-- A sign or none, at least one digit, and the number that the digits write. -/
def IsNumeral (s : List Char) (n : Nat) : Prop :=
  ∃ d, (s = d ∨ s = '+' :: d) ∧ d ≠ [] ∧ AllDigits d ∧ value d = n

theorem parse_sound {s : List Char} {limit n : Nat} (h : parse limit s = .ok n) :
    IsNumeral s n ∧ n ≤ limit := by
  unfold parse at h
  split at h
  · exact absurd h (by simp)
  · exact absurd h (by simp)
  · rename_i d hne
    obtain ⟨hd, hvalue, hle⟩ := parseFrom_sound (Nat.zero_le limit) h
    exact ⟨⟨d, Or.inr rfl, by rintro rfl; exact hne rfl, hd, hvalue⟩, hle⟩
  · rename_i hne _ _
    obtain ⟨hd, hvalue, hle⟩ := parseFrom_sound (Nat.zero_le limit) h
    exact ⟨⟨s, Or.inl rfl, hne, hd, hvalue⟩, hle⟩

/-- **Reading**: a text is read as the number of which it is a numeral, if that is within the limit. -/
theorem parse_eq_ok_iff {s : List Char} {limit n : Nat} :
    parse limit s = .ok n ↔ IsNumeral s n ∧ n ≤ limit := by
  constructor
  · exact parse_sound
  · rintro ⟨⟨d, rfl | rfl, hne, hd, rfl⟩, hle⟩
    · exact parse_of_le hd hne hle
    · have hsign : parse limit ('+' :: d) = parseFrom limit 0 d := by
        rw [parse]
        rintro rfl
        exact hne rfl
      rw [hsign, ← parse_of_allDigits hd hne, parse_of_le hd hne hle]

theorem isNumeral_digits (n : Nat) : IsNumeral (digits n) n :=
  ⟨digits n, Or.inl rfl, List.length_pos_iff.1 (one_le_length_digits n), allDigits_digits n, value_digits n⟩

end FieldBridge.Decimal
