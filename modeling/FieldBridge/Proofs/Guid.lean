/-
  Globally unique identifiers read back.

  1. **Hexadecimal digits** — digits of either case are read as the number that they write
     (`Hex.value?_eq_some_iff`), and a number written with a fixed count of digits is read back, as far as
     the digits reach (`Hex.value?_fixed`).

  2. **Hyphens** — taking the hyphens out of a hyphenated form gives its digits, if there are 32 and none
     of them is a hyphen (`unhyphenate?_eq_some_iff`).

  3. **Forms** — a text is read exactly if it is 32 digits, plain or hyphenated, and the hyphenated form
     may stand in braces or behind a name (`parse?_eq_some_iff`).  A digit begins neither of these two, so
     no text is of more than one form.

  4. **The written form** — it is the hyphenated form of digits that write the identifier
     (`isDigits_digits`), and holds nothing but hyphens and digits in lower case (`mem_text`).
-/

import FieldBridge.Guid
import FieldBridge.Proofs.Text.Cut

namespace FieldBridge

/-! ## Hexadecimal digits -/

namespace Hex

theorem digit?_digit {n : Nat} (h : n < 16) : digit? (digit n) = some n := by
  revert n
  decide

theorem mem_fixed {width n : Nat} {c : Char} (h : c ∈ fixed width n) : ∃ d < 16, c = digit d := by
  induction width generalizing n with
  | zero => exact absurd h List.not_mem_nil
  | succ width ih =>
    rcases List.mem_append.1 h with hfront | hlast
    · exact ih hfront
    · exact ⟨n % 16, Nat.mod_lt n (by decide), List.mem_singleton.1 hlast⟩

/-- Reading goes on behind a first part. -/
theorem valueFrom?_append (acc : Nat) (s t : List Char) :
    valueFrom? acc (s ++ t) = (valueFrom? acc s).bind fun n => valueFrom? n t := by
  induction s generalizing acc with
  | nil => rfl
  | cons c s ih =>
    simp only [List.cons_append, valueFrom?]
    split
    · exact ih _
    · rfl

/-- Digits of either case, and the number that they write. -/
def IsNumeral (s : List Char) (n : Nat) : Prop :=
  (∀ c ∈ s, (digit? c).isSome) ∧ s.foldl (fun n c => n * 16 + (digit? c).getD 0) 0 = n

theorem valueFrom?_eq_some_iff {s : List Char} {acc n : Nat} :
    valueFrom? acc s = some n
      ↔ (∀ c ∈ s, (digit? c).isSome) ∧ s.foldl (fun n c => n * 16 + (digit? c).getD 0) acc = n := by
  induction s generalizing acc with
  | nil => simp [valueFrom?]
  | cons c s ih =>
    cases hd : digit? c with
    | none => simp [valueFrom?, hd]
    | some d => simp [valueFrom?, hd, ih]

/-- **Reading**: a text is read as the number that its digits write. -/
theorem value?_eq_some_iff {s : List Char} {n : Nat} : value? s = some n ↔ IsNumeral s n :=
  valueFrom?_eq_some_iff

theorem toNat_lt_of_digit? {c : Char} (h : (digit? c).isSome) : c.toNat < 128 := by
  simp only [digit?] at h
  split at h
  · omega
  · split at h
    · omega
    · split at h
      · omega
      · exact absurd h (by simp)

/-- **Digits**: a number below the limit of its width is read back. -/
theorem value?_fixed {width n : Nat} (h : n < Nat.pow 16 width) : value? (fixed width n) = some n := by
  induction width generalizing n with
  | zero =>
    obtain rfl : n = 0 := Nat.lt_one_iff.1 h
    rfl
  | succ width ih =>
    have hdiv : n / 16 < Nat.pow 16 width :=
      Nat.div_lt_of_lt_mul (by rw [Nat.mul_comm]; exact h)
    have hfront : valueFrom? 0 (fixedWith digit width (n / 16)) = some (n / 16) := ih hdiv
    simp only [value?, fixed, fixedWith, valueFrom?_append, hfront, Option.bind_some, valueFrom?,
      digit?_digit (Nat.mod_lt n (by decide : 0 < 16))]
    congr 1
    omega

end Hex

/-! ## Hyphens -/

namespace Guid

theorem length_hyphenate {s : List Char} (h : s.length = 32) : (hyphenate s).length = 36 := by
  simp [hyphenate, h]

/-- Without its hyphens a hyphenated form is the digits. -/
theorem filter_hyphenate {s : List Char} (h : '-' ∉ s) : (hyphenate s).filter (· != '-') = s := by
  have hkeep : ∀ t : List Char, (∀ c ∈ t, c ∈ s) → t.filter (· != '-') = t := by
    intro t ht
    refine List.filter_eq_self.2 fun c hc => bne_iff_ne.2 ?_
    rintro rfl
    exact h (ht '-' hc)
  have hparts : s.take 8 ++ (s.drop 8).take 4 ++ (s.drop 12).take 4 ++ (s.drop 16).take 4 ++ s.drop 20
      = s := by
    have htail : ∀ k, (s.drop k).take 4 ++ s.drop (k + 4) = s.drop k := by
      intro k
      rw [← List.drop_drop, List.take_append_drop]
    simp only [List.append_assoc]
    rw [htail 16, htail 12, htail 8, List.take_append_drop]
  have htake : ∀ n k, ∀ c ∈ (s.drop n).take k, c ∈ s :=
    fun n k c hc => List.mem_of_mem_drop (List.mem_of_mem_take hc)
  simp only [hyphenate, List.filter_append, List.filter_cons_of_neg, bne_self_eq_false,
    Bool.false_eq_true, not_false_eq_true, hkeep _ fun c hc => List.mem_of_mem_take hc,
    hkeep _ (htake _ _), hkeep _ fun c hc => List.mem_of_mem_drop hc]
  simpa [List.append_assoc] using hparts

theorem unhyphenate?_hyphenate {s : List Char} (hlength : s.length = 32) (h : '-' ∉ s) :
    unhyphenate? (hyphenate s) = some s := by
  simp [unhyphenate?, filter_hyphenate h, length_hyphenate hlength, hlength]

/-- A hyphenated form holds hyphens and its digits. -/
theorem mem_hyphenate {s : List Char} {c : Char} (h : c ∈ hyphenate s) : c = '-' ∨ c ∈ s := by
  simp only [hyphenate, List.mem_append, List.mem_cons] at h
  rcases h with ((((hc | rfl | hc) | rfl | hc) | rfl | hc) | rfl | hc)
  · exact Or.inr (List.mem_of_mem_take hc)
  · exact Or.inl rfl
  · exact Or.inr (List.mem_of_mem_drop (List.mem_of_mem_take hc))
  · exact Or.inl rfl
  · exact Or.inr (List.mem_of_mem_drop (List.mem_of_mem_take hc))
  · exact Or.inl rfl
  · exact Or.inr (List.mem_of_mem_drop (List.mem_of_mem_take hc))
  · exact Or.inl rfl
  · exact Or.inr (List.mem_of_mem_drop hc)

/-! ## Forms -/

/-- 32 digits of either case, and the identifier whose number they write. -/
def IsDigits (d : List Char) (g : Guid) : Prop := d.length = 32 ∧ Hex.IsNumeral d g.value

/-- The texts that write an identifier. -/
inductive Writes (g : Guid) : List Char → Prop
  | plain {d : List Char} (h : IsDigits d g) : Writes g d
  | hyphenated {d : List Char} (h : IsDigits d g) : Writes g (hyphenate d)
  | braced {d : List Char} (h : IsDigits d g) : Writes g ('{' :: (hyphenate d ++ ['}']))
  /-- The name in front is written with letters of either case. -/
  | named {d name : List Char} (h : IsDigits d g) (hname : name.map Text.lower = urn) :
    Writes g (name ++ hyphenate d)

theorem ofDigits?_eq_some_iff {d : List Char} {g : Guid} : ofDigits? d = some g ↔ IsDigits d g := by
  have hnumber : ∀ n, ofNat? n = some g ↔ n = g.value := by
    intro n
    rw [ofNat?]
    split
    · obtain ⟨value, hvalue⟩ := g
      simp
    · rename_i hcount
      exact iff_of_false (by simp) (by rintro rfl; exact hcount g.value_lt)
  rw [ofDigits?, IsDigits]
  split
  · rename_i hlength
    simp only [hlength, true_and, ← Hex.value?_eq_some_iff, Option.bind_eq_some_iff, hnumber,
      exists_eq_right]
  · rename_i hlength
    simp [hlength]

/-- A digit is no hyphen and begins neither the form in braces nor the one with a name. -/
theorem digit_is_plain {c : Char} (h : (Hex.digit? c).isSome) :
    c ≠ '-' ∧ c ≠ '{' ∧ Text.lower c ≠ 'u' :=
  Text.of_toNat_lt (P := fun c => (Hex.digit? c).isSome → c ≠ '-' ∧ c ≠ '{' ∧ Text.lower c ≠ 'u')
    (by decide) (Hex.toNat_lt_of_digit? h) h

theorem unhyphenate?_eq_some_iff {s d : List Char} :
    unhyphenate? s = some d ↔ s = hyphenate d ∧ d.length = 32 ∧ '-' ∉ d := by
  constructor
  · intro h
    simp only [unhyphenate?] at h
    split at h
    · rename_i hall
      obtain ⟨-, hlength, hs⟩ := hall
      obtain rfl := Option.some.inj h
      exact ⟨hs.symm, hlength, by simp⟩
    · exact absurd h (by simp)
  · rintro ⟨rfl, hlength, hhyphen⟩
    exact unhyphenate?_hyphenate hlength hhyphen

/-- A hyphenated form is read as its digits are. -/
theorem bind_unhyphenate?_iff {s : List Char} {g : Guid} :
    (unhyphenate? s).bind ofDigits? = some g ↔ ∃ d, IsDigits d g ∧ s = hyphenate d := by
  rw [Option.bind_eq_some_iff]
  constructor
  · rintro ⟨d, hd, hg⟩
    exact ⟨d, ofDigits?_eq_some_iff.1 hg, (unhyphenate?_eq_some_iff.1 hd).1⟩
  · rintro ⟨d, hd, rfl⟩
    have hhyphen : '-' ∉ d := fun hmem => (digit_is_plain (hd.2.1 _ hmem)).1 rfl
    exact ⟨d, unhyphenate?_hyphenate hd.1 hhyphen, ofDigits?_eq_some_iff.2 hd⟩

/-- What is read is written in one of the forms. -/
theorem writes_of_parse? {s : List Char} {g : Guid} (h : parse? s = some g) : Writes g s := by
  unfold parse? at h
  split at h
  · rename_i rest
    split at h
    · rename_i hlast
      obtain ⟨d, hd, hrest⟩ := bind_unhyphenate?_iff.1 h
      obtain ⟨front, rfl⟩ := List.getLast?_eq_some_iff.1 hlast
      rw [List.dropLast_concat] at hrest
      exact hrest ▸ .braced hd
    · exact absurd h (by simp)
  · split at h
    · rename_i hname
      obtain ⟨d, hd, hrest⟩ := bind_unhyphenate?_iff.1 h
      rw [← List.take_append_drop 9 s, hrest]
      exact .named hd hname
    · split at h
      · exact .plain (ofDigits?_eq_some_iff.1 h)
      · obtain ⟨d, hd, rfl⟩ := bind_unhyphenate?_iff.1 h
        exact .hyphenated hd

/-- A form that begins with a digit has no brace and no name in front. -/
theorem parse?_of_digit {c : Char} {s : List Char} (h : (Hex.digit? c).isSome) :
    parse? (c :: s) = if (c :: s).length = 32 then ofDigits? (c :: s)
      else (unhyphenate? (c :: s)).bind ofDigits? := by
  obtain ⟨-, hbrace, hname⟩ := digit_is_plain h
  have hurn : ((c :: s).take 9).map Text.lower ≠ urn := fun heq => hname (List.cons.inj heq).1
  rw [parse?.eq_2 _ fun rest heq => hbrace (List.cons.inj heq).1, if_neg hurn]

/-- A name in front is passed over. -/
theorem parse?_of_name {name : List Char} (h : name.map Text.lower = urn) (s : List Char) :
    parse? (name ++ s) = (unhyphenate? s).bind ofDigits? := by
  have hlength : name.length = 9 := by
    rw [← List.length_map Text.lower, h]
    rfl
  have hbrace : ∀ rest, name ++ s ≠ '{' :: rest := by
    intro rest heq
    cases name with
    | nil => exact absurd hlength (by decide)
    | cons c name =>
      obtain rfl : c = '{' := (List.cons.inj heq).1
      exact absurd (List.cons.inj h).1 (by decide)
  rw [parse?.eq_2 _ hbrace, List.take_left' hlength, if_pos h, List.drop_left' hlength]

theorem parse?_of_writes {s : List Char} {g : Guid} (h : Writes g s) : parse? s = some g := by
  cases h with
  | plain hd =>
    cases s with
    | nil => exact absurd hd.1 (by decide)
    | cons c s =>
      rw [parse?_of_digit (hd.2.1 c List.mem_cons_self), if_pos hd.1, ofDigits?_eq_some_iff.2 hd]
  | @hyphenated d hd =>
    have hread := bind_unhyphenate?_iff.2 ⟨d, hd, rfl⟩
    -- with its hyphens it is too long to be read as plain digits
    have hlength : (hyphenate d).length ≠ 32 := by simp [length_hyphenate hd.1]
    cases d with
    | nil => exact absurd hd.1 (by decide)
    | cons c d =>
      obtain ⟨rest, hrest⟩ : ∃ rest, hyphenate (c :: d) = c :: rest := ⟨_, rfl⟩
      rw [hrest] at hread hlength ⊢
      rw [parse?_of_digit (hd.2.1 c List.mem_cons_self), if_neg hlength, hread]
  | @braced d hd =>
    have hread := bind_unhyphenate?_iff.2 ⟨d, hd, rfl⟩
    simpa [parse?] using hread
  | @named d name hd hname =>
    rw [parse?_of_name hname, bind_unhyphenate?_iff.2 ⟨d, hd, rfl⟩]

/-- **Forms**: a text is read as an identifier exactly if it writes it in one of the four forms. -/
theorem parse?_eq_some_iff {s : List Char} {g : Guid} : parse? s = some g ↔ Writes g s :=
  ⟨writes_of_parse?, parse?_of_writes⟩

/-! ## The written form -/

/-- The written form is the hyphenated one of these digits. -/
theorem isDigits_digits (g : Guid) : IsDigits g.digits g :=
  ⟨Hex.length_fixedWith _ 32 _, Hex.value?_eq_some_iff.1 (Hex.value?_fixed g.value_lt)⟩

/-- A written identifier holds hyphens and digits in lower case. -/
theorem mem_text (g : Guid) {c : Char} (h : c ∈ g.text) : c = '-' ∨ ∃ d < 16, c = Hex.digit d :=
  (mem_hyphenate h).imp_right Hex.mem_fixed

end Guid

end FieldBridge
