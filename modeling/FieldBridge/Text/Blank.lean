/-
  Blank characters, trimming and cutting.

  Configuration values and node ids are taken "without surrounding blanks".  A blank is a character
  with the Unicode property `White_Space`: 25 code points, of which only six are ASCII.  Everything
  here works on lists of characters, so that a statement about a text is a statement about a list.

  1. **Program** — `trim s` drops blanks at both ends; `cut? c s` splits at the first `c`;
     `pieces c s` splits at every `c`.

  2. **Specification** — `trim` leaves no blank at either end (`trim_eq_self` says when it changes
     nothing), and `cut?` loses only the separator (`append_of_cut?`).
-/

namespace FieldBridge.Text

/-- The code points with the Unicode property `White_Space`. -/
def isBlank (c : Char) : Bool :=
  let n := c.toNat
  (9 ≤ n && n ≤ 13) || n == 0x20 || n == 0x85 || n == 0xA0 || n == 0x1680
    || (0x2000 ≤ n && n ≤ 0x200A) || n == 0x2028 || n == 0x2029 || n == 0x202F || n == 0x205F
    || n == 0x3000

/-- Drop the blanks in front. -/
def trimLeft (s : List Char) : List Char := s.dropWhile isBlank

/-- Drop the blanks behind. -/
def trimRight (s : List Char) : List Char := (trimLeft s.reverse).reverse

/-- Drop the blanks at both ends. -/
def trim (s : List Char) : List Char := trimRight (trimLeft s)

/-- The lower-case form of an ASCII capital; every other character is kept. -/
def lower (c : Char) : Char :=
  if 'A' ≤ c ∧ c ≤ 'Z' then Char.ofNat (c.toNat + 32) else c

/-- How a word with a fixed spelling is looked up: trimmed and in lower case. -/
def keyword (s : List Char) : List Char := (trim s).map lower

/-- The text before and after the first `sep`; `none` if there is no `sep`. -/
def cut? (sep : Char) : List Char → Option (List Char × List Char)
  | [] => none
  | c :: s =>
    if c = sep then some ([], s)
    else (cut? sep s).map fun (before, after) => (c :: before, after)

/-- The pieces between the separators: one more than there are separators. -/
def pieces (sep : Char) : List Char → List (List Char)
  | [] => [[]]
  | c :: s =>
    if c = sep then [] :: pieces sep s
    else match pieces sep s with
      | [] => [[c]]
      | p :: ps => (c :: p) :: ps

/-- The rest of `s` behind the prefix `p`; `none` if `s` does not start with `p`. -/
def after? : (p s : List Char) → Option (List Char)
  | [], s => some s
  | _ :: _, [] => none
  | a :: p, c :: s => if a = c then after? p s else none

/-! ## What trimming does -/

@[simp] theorem trimLeft_nil : trimLeft [] = [] := rfl

theorem trimLeft_cons_of_not {c : Char} (h : isBlank c = false) (s : List Char) :
    trimLeft (c :: s) = c :: s := by
  simp [trimLeft, h]

/-- Trimming changes nothing exactly when neither end is blank. -/
theorem trim_eq_self {s : List Char} (hfirst : ∀ c ∈ s.head?, isBlank c = false)
    (hlast : ∀ c ∈ s.getLast?, isBlank c = false) : trim s = s := by
  have hl : trimLeft s = s := by
    cases s with
    | nil => rfl
    | cons c s => exact trimLeft_cons_of_not (hfirst c rfl) s
  have hr : trimLeft s.reverse = s.reverse := by
    cases h : s.reverse with
    | nil => rfl
    | cons c t =>
      refine trimLeft_cons_of_not (hlast c ?_) t
      have hs : s = t.reverse ++ [c] := by
        have := congrArg List.reverse h
        simpa using this
      simp [hs]
  simp [trim, trimRight, hl, hr]

/-! ## Cutting loses only separators -/

theorem append_of_cut? {sep : Char} {s before rest : List Char} (h : cut? sep s = some (before, rest)) :
    before ++ sep :: rest = s := by
  induction s generalizing before with
  | nil => simp [cut?] at h
  | cons c s ih =>
    by_cases hc : c = sep
    · simp [cut?, hc] at h
      simp [h.1.symm, h.2.symm, hc]
    · simp only [cut?, hc, if_false, Option.map_eq_some_iff] at h
      obtain ⟨⟨b, r⟩, hb, heq⟩ := h
      simp only [Prod.mk.injEq] at heq
      obtain ⟨rfl, rfl⟩ := heq
      simp [ih hb]

theorem pieces_ne_nil (sep : Char) (s : List Char) : pieces sep s ≠ [] := by
  cases s with
  | nil => simp [pieces]
  | cons c s =>
    rw [pieces]
    split
    · simp
    · split <;> simp

end FieldBridge.Text
