/-
  CBOR items in front of more.

  The reader looks at no byte behind the item that it reads.

  1. **Locality** — whatever part of the reader has taken something from the front of a text takes the same
     in front of more, and leaves the more behind (`takeHead?_extend` … `step?_extend`).  The two loops run
     on fuel that is counted from the whole text, so they are local for any greater fuel, too.

  2. **Whole items** — so reading is local (`read?_append`), and no proper prefix of a written item can be
     read: what it held would be held by the whole, with something left over (`read?_prefix`).
-/

import FieldBridge.Proofs.Cbor.RoundTrip

namespace FieldBridge.Cbor

/-! ## Heads and bytes -/

theorem takeNumber?_extend {width acc n : Nat} {s rest : Bytes}
    (h : takeNumber? width acc s = some (n, rest)) (t : Bytes) :
    takeNumber? width acc (s ++ t) = some (n, rest ++ t) := by
  induction width generalizing acc s with
  | zero =>
    obtain ⟨rfl, rfl⟩ := Prod.mk.inj (Option.some.inj h)
    rfl
  | succ width ih =>
    cases s with
    | nil => exact absurd h (by simp [takeNumber?])
    | cons b s => exact ih h

theorem takeHead?_extend {kind : Nat} {argument : Argument} {s rest : Bytes}
    (h : takeHead? s = some (kind, argument, rest)) (t : Bytes) :
    takeHead? (s ++ t) = some (kind, argument, rest ++ t) := by
  cases s with
  | nil => exact absurd h (by simp [takeHead?])
  | cons b s =>
    simp only [takeHead?, List.cons_append] at h ⊢
    by_cases hlow : b.toNat % 32 < 24
    · simp only [if_pos hlow, Option.some.injEq, Prod.mk.injEq] at h ⊢
      obtain ⟨rfl, rfl, rfl⟩ := h
      exact ⟨rfl, rfl, rfl⟩
    by_cases hopen : b.toNat % 32 = 31
    · simp only [if_neg hlow, if_pos hopen, Option.some.injEq, Prod.mk.injEq] at h ⊢
      obtain ⟨rfl, rfl, rfl⟩ := h
      exact ⟨rfl, rfl, rfl⟩
    by_cases hlong : b.toNat % 32 < 28
    · simp only [if_neg hlow, if_neg hopen, if_pos hlong] at h ⊢
      obtain ⟨⟨n, left⟩, hnumber, heq⟩ := Option.map_eq_some_iff.1 h
      simp only [Prod.mk.injEq] at heq
      obtain ⟨rfl, rfl, rfl⟩ := heq
      rw [takeNumber?_extend hnumber t]
      rfl
    · simp [hlow, hopen, hlong] at h

theorem takeBytes?_extend {n : Nat} {s front rest : Bytes}
    (h : takeBytes? n s = some (front, rest)) (t : Bytes) :
    takeBytes? n (s ++ t) = some (front, rest ++ t) := by
  simp only [takeBytes?] at h ⊢
  split at h
  · rename_i hlength
    obtain ⟨rfl, rfl⟩ := Prod.mk.inj (Option.some.inj h)
    have hle : n ≤ s.length := by
      rw [List.length_take] at hlength
      omega
    rw [List.take_append_of_le_length hle, List.drop_append_of_le_length hle, if_pos hlength]
  · exact absurd h (by simp)

/-! ## Chunks -/

theorem takeChunks?_extend {kind fuel depth : Nat} {done chunks : List Bytes} {s rest : Bytes}
    (h : takeChunks? kind fuel depth done s = some (chunks, rest)) (t : Bytes) {more : Nat}
    (hmore : fuel ≤ more) :
    takeChunks? kind more depth done (s ++ t) = some (chunks, rest ++ t) := by
  induction fuel generalizing depth done s more with
  | zero => exact absurd h (by simp [takeChunks?])
  | succ fuel ih =>
    obtain ⟨more, rfl⟩ : ∃ k, more = k + 1 := ⟨more - 1, by omega⟩
    have hle : fuel ≤ more := Nat.le_of_succ_le_succ hmore
    rw [takeChunks?] at h ⊢
    cases hhead : takeHead? s with
    | none => simp [hhead] at h
    | some p =>
      obtain ⟨k, argument, behind⟩ := p
      simp only [hhead, takeHead?_extend hhead t] at h ⊢
      cases argument with
      | openEnded =>
        -- a break, perhaps the last, or a string within the string
        by_cases hbreak : k = 7
        · by_cases hlast : depth ≤ 1
          · simp only [if_pos hbreak, if_pos hlast, Option.some.injEq, Prod.mk.injEq] at h ⊢
            obtain ⟨rfl, rfl⟩ := h
            exact ⟨rfl, rfl⟩
          · simp only [if_pos hbreak, if_neg hlast] at h ⊢
            exact ih h hle
        · by_cases hkind : k = kind
          · simp only [if_neg hbreak, if_pos hkind] at h ⊢
            exact ih h hle
          · simp [hbreak, hkind] at h
      | value n width =>
        by_cases hkind : k = kind
        · simp only [if_pos hkind] at h ⊢
          cases hbytes : takeBytes? n behind with
          | none => simp [hbytes] at h
          | some p =>
            obtain ⟨chunk, left⟩ := p
            simp only [hbytes, takeBytes?_extend hbytes t] at h ⊢
            exact ih h hle
        · simp [hkind] at h

/-- The chunks of a string, with the fuel that its reader has. -/
theorem takeChunks?_append {kind : Nat} {chunks : List Bytes} {s rest : Bytes}
    (h : takeChunks? kind (s.length + 1) 1 [] s = some (chunks, rest)) (t : Bytes) :
    takeChunks? kind ((s ++ t).length + 1) 1 [] (s ++ t) = some (chunks, rest ++ t) :=
  takeChunks?_extend h t (by rw [List.length_append]; omega)

/-! ## Items -/

theorem step?_extend {stack : List Frame} {s rest : Bytes} {p : Progress}
    (h : step? stack s = some (p, rest)) (t : Bytes) :
    step? stack (s ++ t) = some (p, rest ++ t) := by
  simp only [step?, Option.bind_eq_bind, Option.bind_eq_some_iff] at h
  obtain ⟨⟨kind, argument, behind⟩, hhead, h⟩ := h
  simp only [step?, takeHead?_extend hhead t, Option.bind_eq_bind, Option.bind_some]
  dsimp only at h ⊢
  -- one case for each row of the step; most of them take nothing behind the head
  split at h
  case h_3 n width =>
    obtain ⟨⟨front, left⟩, hbytes, h⟩ := Option.bind_eq_some_iff.1 h
    obtain ⟨rfl, rfl⟩ := Prod.mk.inj (Option.some.inj h)
    rw [takeBytes?_extend hbytes t, Option.bind_some]
  case h_4 =>
    obtain ⟨⟨chunks, left⟩, hchunks, h⟩ := Option.bind_eq_some_iff.1 h
    obtain ⟨rfl, rfl⟩ := Prod.mk.inj (Option.some.inj h)
    rw [takeChunks?_append hchunks t, Option.bind_some]
  case h_5 n width =>
    obtain ⟨⟨front, left⟩, hbytes, h⟩ := Option.bind_eq_some_iff.1 h
    obtain ⟨text, htext, h⟩ := Option.bind_eq_some_iff.1 h
    obtain ⟨rfl, rfl⟩ := Prod.mk.inj (Option.some.inj h)
    rw [takeBytes?_extend hbytes t, Option.bind_some, htext, Option.bind_some]
  case h_6 =>
    obtain ⟨⟨chunks, left⟩, hchunks, h⟩ := Option.bind_eq_some_iff.1 h
    obtain ⟨texts, htexts, h⟩ := Option.bind_eq_some_iff.1 h
    obtain ⟨rfl, rfl⟩ := Prod.mk.inj (Option.some.inj h)
    rw [takeChunks?_append hchunks t, Option.bind_some, htexts, Option.bind_some]
  case h_14 n width =>
    by_cases hwidth : width ≤ 1
    · simp only [if_pos hwidth, Option.some.injEq, Prod.mk.injEq] at h ⊢
      obtain ⟨rfl, rfl⟩ := h
      exact ⟨rfl, rfl⟩
    · simp only [if_neg hwidth, Option.some.injEq, Prod.mk.injEq] at h ⊢
      obtain ⟨rfl, rfl⟩ := h
      exact ⟨rfl, rfl⟩
  case h_15 =>
    obtain ⟨q, hclose, heq⟩ := Option.map_eq_some_iff.1 h
    obtain ⟨rfl, rfl⟩ := Prod.mk.inj heq
    rw [hclose, Option.map_some]
  case h_16 => exact absurd h (by simp)
  all_goals
    obtain ⟨rfl, rfl⟩ := Prod.mk.inj (Option.some.inj h)
    rfl

theorem readFrom?_extend {fuel : Nat} {stack : List Frame} {s rest : Bytes} {i : Item}
    (h : readFrom? fuel stack s = some (i, rest)) (t : Bytes) {more : Nat} (hmore : fuel ≤ more) :
    readFrom? more stack (s ++ t) = some (i, rest ++ t) := by
  induction fuel generalizing stack s more with
  | zero => exact absurd h (by simp [readFrom?])
  | succ fuel ih =>
    obtain ⟨more, rfl⟩ : ∃ k, more = k + 1 := ⟨more - 1, by omega⟩
    rw [readFrom?] at h
    split at h
    · exact absurd h (by simp)
    · rename_i item behind hstep
      obtain ⟨rfl, rfl⟩ := Prod.mk.inj (Option.some.inj h)
      exact readFrom?_succ (step?_extend hstep t)
    · rename_i stack' behind hstep
      rw [readFrom?_succ (step?_extend hstep t)]
      exact ih h (Nat.le_of_succ_le_succ hmore)

/-- **Locality**: what is read does not depend on what follows, which is left over. -/
theorem read?_append {s rest : Bytes} {i : Item} (h : read? s = some (i, rest)) (t : Bytes) :
    read? (s ++ t) = some (i, rest ++ t) :=
  readFrom?_extend h t (by rw [List.length_append]; omega)

/-- **Prefixes**: a definite item cannot be read before its last byte. -/
theorem read?_prefix {i : Item} (hi : Item.Definite i) {s : Bytes} (h : s <+: i.write)
    (hne : s ≠ i.write) : read? s = none := by
  obtain ⟨t, ht⟩ := h
  have hwhole : read? i.write = some (i, []) := by
    have hread := read?_write hi []
    rwa [List.append_nil] at hread
  cases hread : read? s with
  | none => rfl
  | some p =>
    -- the whole would leave over what was cut off
    obtain ⟨j, rest⟩ := p
    have hlonger := read?_append hread t
    rw [ht, hwhole] at hlonger
    have hnil : [] = rest ++ t := (Prod.mk.inj (Option.some.inj hlonger)).2
    obtain ⟨-, rfl⟩ := List.append_eq_nil_iff.1 hnil.symm
    exact absurd (by simpa using ht) hne

end FieldBridge.Cbor
