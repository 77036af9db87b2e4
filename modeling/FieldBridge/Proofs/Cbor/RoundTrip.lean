/-
  CBOR items read back.

  1. **Heads** — the shortest head of a number is read as that number (`takeHead?_head`), whichever of its
     five forms it has.

  2. **Items** — the written form of a definite item is read as the item, which goes into what is open
     around it, and what follows is left over (`readFrom?_write`).  The induction is on the item and runs
     for every stack; fuel is counted in heads, of which no item has more than bytes.

  3. **Records** — the fields of a record whose names differ are its values (`fields?_record`).
-/

import FieldBridge.Association
import FieldBridge.Cbor.Reader
import FieldBridge.Proofs.Text.Utf8

namespace FieldBridge.Cbor

/-- Numbers and lengths below this limit have a head. -/
def headLimit : Nat := 0x10000000000000000

/-! ## Heads -/

theorem takeNumber?_succ {width acc n : Nat} {s rest : Bytes} {b : UInt8}
    (h : takeNumber? width acc s = some (n, b :: rest)) :
    takeNumber? (width + 1) acc s = some (n * 256 + b.toNat, rest) := by
  induction width generalizing acc s with
  | zero =>
    simp only [takeNumber?, Option.some.injEq, Prod.mk.injEq] at h
    obtain ⟨rfl, rfl⟩ := h
    rfl
  | succ width ih =>
    cases s with
    | nil => exact absurd h (by simp [takeNumber?])
    | cons a s => exact ih h

/-- A number that fits into its bytes is read from them. -/
theorem takeNumber?_bigEndian {width n : Nat} (h : n < Nat.pow 256 width) (acc : Nat)
    (rest : Bytes) : takeNumber? width acc (bigEndian width n ++ rest)
      = some (acc * Nat.pow 256 width + n, rest) := by
  induction width generalizing n rest with
  | zero =>
    obtain rfl : n = 0 := Nat.lt_one_iff.1 h
    simp [takeNumber?, bigEndian, Nat.pow]
  | succ width ih =>
    have hpow : Nat.pow 256 (width + 1) = Nat.pow 256 width * 256 := rfl
    have hfront := ih (n := n / 256) (Nat.div_lt_of_lt_mul (by rw [Nat.mul_comm]; exact h))
      ((n % 256).toUInt8 :: rest)
    have hlast : (n % 256).toUInt8.toNat = n % 256 := Utf8.toNat_byte (Nat.mod_lt n (by decide))
    rw [bigEndian, List.append_assoc, List.singleton_append, takeNumber?_succ hfront, hlast, hpow,
      Nat.add_mul, Nat.mul_assoc]
    congr 2
    omega

/-- The first byte of a head, taken apart. -/
theorem takeHead?_byte {kind low : Nat} (hkind : kind < 8) (hlow : low < 28) (rest : Bytes) :
    takeHead? ((kind * 32 + low).toUInt8 :: rest) =
      if low < 24 then some (kind, .value low 0, rest)
      else (takeNumber? (Nat.pow 2 (low - 24)) 0 rest).map fun (n, rest) =>
        (kind, .value n (Nat.pow 2 (low - 24)), rest) := by
  have hbyte : (kind * 32 + low).toUInt8.toNat = kind * 32 + low := Utf8.toNat_byte (by omega)
  have hdiv : (kind * 32 + low) / 32 = kind := by omega
  have hmod : (kind * 32 + low) % 32 = low := by omega
  simp only [takeHead?, hbyte, hdiv, hmod]
  split
  · rfl
  · rw [if_neg (by omega)]

/-- The head of a number in its long form. -/
theorem takeHead?_long {kind low n : Nat} (hkind : kind < 8) (hlow : 24 ≤ low) (hlow' : low < 28)
    (hn : n < Nat.pow 256 (Nat.pow 2 (low - 24))) (rest : Bytes) :
    takeHead? ((kind * 32 + low).toUInt8 :: bigEndian (Nat.pow 2 (low - 24)) n ++ rest)
      = some (kind, .value n (Nat.pow 2 (low - 24)), rest) := by
  rw [List.cons_append, takeHead?_byte hkind hlow', if_neg (by omega), takeNumber?_bigEndian hn]
  simp

/-- **Heads**: the shortest head of a number is read as the number; below 256 it takes at most one byte
behind the first. -/
theorem takeHead?_head {kind n : Nat} (hkind : kind < 8) (hn : n < headLimit) (rest : Bytes) :
    ∃ width, takeHead? (head kind n ++ rest) = some (kind, .value n width, rest)
      ∧ (n < 256 → width ≤ 1) := by
  unfold head
  split
  · rename_i h
    refine ⟨0, ?_, fun _ => by omega⟩
    rw [List.singleton_append, takeHead?_byte hkind (by omega), if_pos h]
  split
  · rename_i h
    exact ⟨1, takeHead?_long hkind (by decide) (by decide) h rest, fun _ => Nat.le_refl 1⟩
  split
  · rename_i _ h h'
    exact ⟨2, takeHead?_long hkind (by decide) (by decide) h' rest, fun hlt => absurd hlt h⟩
  split
  · rename_i h _ h'
    exact ⟨4, takeHead?_long hkind (by decide) (by decide) h' rest, fun hlt => by omega⟩
  · exact ⟨8, takeHead?_long hkind (by decide) (by decide) hn rest, fun hlt => by omega⟩

theorem takeBytes?_append (b rest : Bytes) : takeBytes? b.length (b ++ rest) = some (b, rest) := by
  simp [takeBytes?]

/-! ## Items -/

mutual

/-- An item in one piece throughout, whose numbers and lengths have a head. -/
def Item.Definite : Item → Prop
  | .unsigned n => n < headLimit
  | .negative n => n < headLimit
  | .bytes chunked b => chunked = false ∧ b.length < headLimit
  | .text chunked s => chunked = false ∧ (Utf8.encode s).length < headLimit
  | .array elements => elements.length < headLimit ∧ Item.AllDefinite elements
  | .map pairs => pairs.length < headLimit ∧ Item.PairsDefinite pairs
  | .tagged tag item => tag < headLimit ∧ Item.Definite item
  | .simple n => n < 256
  | .float width bits => (width = 2 ∨ width = 4 ∨ width = 8) ∧ bits < Nat.pow 256 width

def Item.AllDefinite : List Item → Prop
  | [] => True
  | v :: rest => Item.Definite v ∧ Item.AllDefinite rest

def Item.PairsDefinite : List (Item × Item) → Prop
  | [] => True
  | (k, v) :: rest => Item.Definite k ∧ Item.Definite v ∧ Item.PairsDefinite rest

end

mutual

/-- The number of heads in an item. -/
def Item.heads : Item → Nat
  | .array elements => Item.headsOfAll elements + 1
  | .map pairs => Item.headsOfPairs pairs + 1
  | .tagged _ item => Item.heads item + 1
  | _ => 1

def Item.headsOfAll : List Item → Nat
  | [] => 0
  | v :: rest => Item.headsOfAll rest + Item.heads v

def Item.headsOfPairs : List (Item × Item) → Nat
  | [] => 0
  | (k, v) :: rest => Item.headsOfPairs rest + Item.heads v + Item.heads k

end

/-- Go on after an item. -/
def resume (fuel : Nat) : Progress → Bytes → Option (Item × Bytes)
  | .finished item, rest => some (item, rest)
  | .unfinished stack, rest => readFrom? fuel stack rest

theorem readFrom?_succ {fuel : Nat} {stack : List Frame} {s rest : Bytes} {p : Progress}
    (h : step? stack s = some (p, rest)) :
    readFrom? (fuel + 1) stack s = resume fuel p rest := by
  rw [readFrom?, h]
  cases p <;> rfl

open Item (Definite AllDefinite PairsDefinite heads headsOfAll headsOfPairs)

/-- The head of an array that is not empty opens it. -/
theorem step?_array {es : List Item} (hne : es ≠ []) (hlength : es.length < headLimit)
    (stack : List Frame) (rest : Bytes) : step? stack ((Item.array es).write ++ rest)
      = some (.unfinished (.array (some es.length) [] :: stack), Item.writeElements es ++ rest) := by
  obtain ⟨v, vs, rfl⟩ := List.exists_cons_of_ne_nil hne
  obtain ⟨width, hhead, -⟩ :=
    takeHead?_head (show 4 < 8 by decide) hlength (Item.writeElements (v :: vs) ++ rest)
  rw [Item.write, List.append_assoc, step?, hhead]
  rfl

/-- The head of a map that is not empty opens it. -/
theorem step?_map {ps : List (Item × Item)} (hne : ps ≠ []) (hlength : ps.length < headLimit)
    (stack : List Frame) (rest : Bytes) : step? stack ((Item.map ps).write ++ rest)
      = some (.unfinished (.key (some ps.length) [] :: stack), Item.writePairs ps ++ rest) := by
  obtain ⟨p, ps, rfl⟩ := List.exists_cons_of_ne_nil hne
  obtain ⟨width, hhead, -⟩ :=
    takeHead?_head (show 5 < 8 by decide) hlength (Item.writePairs (p :: ps) ++ rest)
  rw [Item.write, List.append_assoc, step?, hhead]
  rfl

theorem step?_tagged {tag : Nat} (htag : tag < headLimit) (item : Item) (stack : List Frame)
    (rest : Bytes) : step? stack ((Item.tagged tag item).write ++ rest)
      = some (.unfinished (.tag tag :: stack), item.write ++ rest) := by
  obtain ⟨width, hhead, -⟩ := takeHead?_head (show 6 < 8 by decide) htag (item.write ++ rest)
  rw [Item.write, List.append_assoc]
  simp [step?, hhead]

/-- A float always has the head of its width, be its bits a small number. -/
theorem takeHead?_float {width bits : Nat} (h : Definite (.float width bits)) (rest : Bytes) :
    takeHead? ((Item.float width bits).write ++ rest) = some (7, .value bits width, rest) := by
  obtain ⟨hwidth, hbits⟩ := h
  rcases hwidth with rfl | rfl | rfl
  · exact takeHead?_long (by decide) (show 24 ≤ 25 by decide) (by decide) hbits rest
  · exact takeHead?_long (by decide) (show 24 ≤ 26 by decide) (by decide) hbits rest
  · exact takeHead?_long (by decide) (show 24 ≤ 27 by decide) (by decide) hbits rest

mutual

/-- **Items**: the written form of a definite item is read as the item, which goes into what is open around
it. -/
theorem readFrom?_write : ∀ (i : Item), Definite i → ∀ (fuel : Nat) (stack : List Frame)
    (rest : Bytes), readFrom? (fuel + heads i) stack (i.write ++ rest)
      = resume fuel (accept i stack) rest
  | .unsigned n, h, fuel, stack, rest => by
    obtain ⟨width, hhead, -⟩ := takeHead?_head (show 0 < 8 by decide) h rest
    refine readFrom?_succ ?_
    simp [step?, Item.write, hhead]
  | .negative n, h, fuel, stack, rest => by
    obtain ⟨width, hhead, -⟩ := takeHead?_head (show 1 < 8 by decide) h rest
    refine readFrom?_succ ?_
    simp [step?, Item.write, hhead]
  | .bytes chunked b, h, fuel, stack, rest => by
    obtain ⟨rfl, hlength⟩ := h
    obtain ⟨width, hhead, -⟩ := takeHead?_head (show 2 < 8 by decide) hlength (b ++ rest)
    refine readFrom?_succ ?_
    simp [step?, Item.write, hhead, takeBytes?_append]
  | .text chunked s, h, fuel, stack, rest => by
    obtain ⟨rfl, hlength⟩ := h
    obtain ⟨width, hhead, -⟩ :=
      takeHead?_head (show 3 < 8 by decide) hlength (Utf8.encode s ++ rest)
    refine readFrom?_succ ?_
    simp [step?, Item.write, hhead, takeBytes?_append, Utf8.decode?_encode]
  | .array [], h, fuel, stack, rest => by
    obtain ⟨width, hhead, -⟩ := takeHead?_head (show 4 < 8 by decide) h.1 rest
    refine readFrom?_succ ?_
    simp only [List.length_nil] at hhead
    simp [step?, Item.write, Item.writeElements, hhead]
  | .array (v :: vs), h, fuel, stack, rest => by
    have hstep := step?_array (List.cons_ne_nil v vs) h.1 stack rest
    have helements := readFrom?_writeElements (v :: vs) h.2 (by simp) fuel [] stack rest
    rw [heads, ← Nat.add_assoc, readFrom?_succ hstep]
    exact helements
  | .map [], h, fuel, stack, rest => by
    obtain ⟨width, hhead, -⟩ := takeHead?_head (show 5 < 8 by decide) h.1 rest
    refine readFrom?_succ ?_
    simp only [List.length_nil] at hhead
    simp [step?, Item.write, Item.writePairs, hhead]
  | .map (p :: ps), h, fuel, stack, rest => by
    have hstep := step?_map (List.cons_ne_nil p ps) h.1 stack rest
    have hpairs := readFrom?_writePairs (p :: ps) h.2 (by simp) fuel [] stack rest
    rw [heads, ← Nat.add_assoc, readFrom?_succ hstep]
    exact hpairs
  | .tagged tag item, h, fuel, stack, rest => by
    have hstep := step?_tagged h.1 item stack rest
    have hitem := readFrom?_write item h.2 fuel (.tag tag :: stack) rest
    rw [heads, ← Nat.add_assoc, readFrom?_succ hstep]
    exact hitem
  | .simple n, h, fuel, stack, rest => by
    have hn : n < headLimit := Nat.lt_trans h (by decide)
    obtain ⟨width, hhead, hwidth⟩ := takeHead?_head (show 7 < 8 by decide) hn rest
    refine readFrom?_succ ?_
    simp [step?, Item.write, hhead, hwidth h]
  | .float width bits, h, fuel, stack, rest => by
    -- the width is what tells a float from a simple value
    have hwide : ¬ width ≤ 1 := by
      rcases h.1 with rfl | rfl | rfl <;> decide
    refine readFrom?_succ ?_
    simp [step?, takeHead?_float h, hwide]

theorem readFrom?_writeElements : ∀ (es : List Item), AllDefinite es → es ≠ [] →
    ∀ (fuel : Nat) (done : List Item) (stack : List Frame) (rest : Bytes),
    readFrom? (fuel + headsOfAll es) (.array (some es.length) done :: stack)
      (Item.writeElements es ++ rest) = resume fuel (accept (.array (done.reverse ++ es)) stack) rest
  | [], _, hne, _, _, _, _ => absurd rfl hne
  | [v], h, _, fuel, done, stack, rest => by
    -- the last element completes the array
    have hv := readFrom?_write v h.1 fuel (.array (some 1) done :: stack) rest
    simpa [Item.writeElements, headsOfAll, accept] using hv
  | v :: w :: vs, h, _, fuel, done, stack, rest => by
    have hv := readFrom?_write v h.1 (fuel + headsOfAll (w :: vs))
      (.array (some (v :: w :: vs).length) done :: stack) (Item.writeElements (w :: vs) ++ rest)
    have hrest := readFrom?_writeElements (w :: vs) h.2 (by simp) fuel (v :: done) stack rest
    rw [Item.writeElements, List.append_assoc, headsOfAll, ← Nat.add_assoc, hv]
    simpa [accept, resume] using hrest

theorem readFrom?_writePairs : ∀ (ps : List (Item × Item)), PairsDefinite ps → ps ≠ [] →
    ∀ (fuel : Nat) (done : List (Item × Item)) (stack : List Frame) (rest : Bytes),
    readFrom? (fuel + headsOfPairs ps) (.key (some ps.length) done :: stack)
      (Item.writePairs ps ++ rest) = resume fuel (accept (.map (done.reverse ++ ps)) stack) rest
  | [], _, hne, _, _, _, _ => absurd rfl hne
  | [(k, v)], h, _, fuel, done, stack, rest => by
    -- the last pair completes the map
    have hk := readFrom?_write k h.1 (fuel + heads v) (.key (some 1) done :: stack) (v.write ++ rest)
    have hv := readFrom?_write v h.2.1 fuel (.value (some 1) done k :: stack) rest
    have hfuel : fuel + headsOfPairs [(k, v)] = fuel + heads v + heads k := by
      simp only [headsOfPairs]
      omega
    rw [hfuel, Item.writePairs, Item.writePairs, List.append_nil, List.append_assoc]
    exact hk.trans (by simpa [accept, resume] using hv)
  | (k, v) :: p :: ps, h, _, fuel, done, stack, rest => by
    have hk := readFrom?_write k h.1 (fuel + headsOfPairs (p :: ps) + heads v)
      (.key (some ((k, v) :: p :: ps).length) done :: stack)
      (v.write ++ (Item.writePairs (p :: ps) ++ rest))
    have hv := readFrom?_write v h.2.1 (fuel + headsOfPairs (p :: ps))
      (.value (some ((k, v) :: p :: ps).length) done k :: stack) (Item.writePairs (p :: ps) ++ rest)
    have hrest := readFrom?_writePairs (p :: ps) h.2.2 (by simp) fuel ((k, v) :: done) stack rest
    have hfuel : fuel + headsOfPairs ((k, v) :: p :: ps)
        = fuel + headsOfPairs (p :: ps) + heads v + heads k := by
      rw [headsOfPairs]
      omega
    rw [hfuel, Item.writePairs, List.append_assoc, List.append_assoc]
    refine hk.trans (hv.trans ?_)
    simpa [accept, resume] using hrest

end

/-! ## Whole items -/

theorem one_le_length_head (kind n : Nat) : 1 ≤ (head kind n).length := by
  unfold head
  split
  · simp
  split
  · simp
  split
  · simp
  split <;> simp

mutual

/-- An item has no more heads than bytes. -/
theorem heads_le_length : ∀ i : Item, heads i ≤ i.write.length
  | .unsigned n => one_le_length_head 0 n
  | .negative n => one_le_length_head 1 n
  | .bytes _ b => by
    have h := one_le_length_head 2 b.length
    simp only [heads, Item.write, List.length_append]
    omega
  | .text _ s => by
    have h := one_le_length_head 3 (Utf8.encode s).length
    simp only [heads, Item.write, List.length_append]
    omega
  | .array es => by
    have h := one_le_length_head 4 es.length
    have hes := headsOfAll_le_length es
    simp only [heads, Item.write, List.length_append]
    omega
  | .map ps => by
    have h := one_le_length_head 5 ps.length
    have hps := headsOfPairs_le_length ps
    simp only [heads, Item.write, List.length_append]
    omega
  | .tagged tag i => by
    have h := one_le_length_head 6 tag
    have hi := heads_le_length i
    simp only [heads, Item.write, List.length_append]
    omega
  | .simple n => one_le_length_head 7 n
  | .float _ _ => by simp [heads, Item.write]

theorem headsOfAll_le_length : ∀ es : List Item, headsOfAll es ≤ (Item.writeElements es).length
  | [] => Nat.le_refl 0
  | v :: rest => by
    have hv := heads_le_length v
    have hrest := headsOfAll_le_length rest
    simp only [headsOfAll, Item.writeElements, List.length_append]
    omega

theorem headsOfPairs_le_length : ∀ ps : List (Item × Item),
    headsOfPairs ps ≤ (Item.writePairs ps).length
  | [] => Nat.le_refl 0
  | (k, v) :: rest => by
    have hk := heads_le_length k
    have hv := heads_le_length v
    have hrest := headsOfPairs_le_length rest
    simp only [headsOfPairs, Item.writePairs, List.length_append]
    omega

end

/-- **Round trip**: a definite item is what its written form says, and what follows is left over. -/
theorem read?_write {i : Item} (h : Definite i) (rest : Bytes) :
    read? (i.write ++ rest) = some (i, rest) := by
  have hle := heads_le_length i
  have hfuel : (i.write ++ rest).length + 1
      = (i.write ++ rest).length + 1 - heads i + heads i := by
    rw [List.length_append]
    omega
  rw [read?, hfuel, readFrom?_write i h]
  rfl

/-! ## Records -/

namespace Item

@[simp] theorem text?_ofText (s : String) : (ofText s).text? = some s := by
  simp [ofText, text?, untagged]

/-- A text of bounded length can be a key. -/
theorem shortText?_ofText {s : String} (h : (Utf8.ofString s).length ≤ shortLimit) :
    (ofText s).shortText? = some s := by
  have h' : (Utf8.encode s.toList).length ≤ shortLimit := h
  simp [ofText, shortText?, untagged, h']

theorem key?_ofText {s : String} (h : (Utf8.ofString s).length ≤ shortLimit) :
    (ofText s).key? = some (Utf8.ofString s) := by
  have h' : (Utf8.encode s.toList).length ≤ shortLimit := h
  simp [ofText, key?, untagged, h', Utf8.ofString]

/-- The keys of a record whose names are short are the bytes of its names. -/
theorem keyed?_record {fields : List (String × Item)}
    (hshort : ∀ f ∈ fields, (Utf8.ofString f.1).length ≤ shortLimit) :
    keyed? (fields.map fun f => (ofText f.1, f.2))
      = some (fields.map fun f => (Utf8.ofString f.1, f.2)) := by
  induction fields with
  | nil => rfl
  | cons f rest ih =>
    have hf := key?_ofText (hshort f List.mem_cons_self)
    have hrest := ih fun g hg => hshort g (List.mem_cons_of_mem f hg)
    simp [keyed?, hf, hrest]

/-- **Records**: the fields of a record whose names differ and are short are its values. -/
theorem fields?_record {fields : List (String × Item)} (names : List String)
    (hnames : fields.map (·.1) = names) (hnodup : names.Nodup)
    (hshort : ∀ n ∈ names, (Utf8.ofString n).length ≤ shortLimit) (level : Nat) :
    (record fields).fields? level names = some (fields.map (·.2)) := by
  subst hnames
  let keyed := fields.map fun f => (Utf8.ofString f.1, f.2)
  have hkeys : (keyed.map (·.1)).Nodup := by
    have hmap : keyed.map (·.1) = (fields.map (·.1)).map Utf8.ofString := by
      simp [keyed]
    rw [hmap]
    exact List.Pairwise.map _ (fun _ _ hne heq => hne (Utf8.ofString_injective heq)) hnodup
  have hmember : ∀ f ∈ fields, member? keyed f.1 = some f.2 := by
    intro f hf
    rw [member?, filter_key_of_mem hkeys (p := (Utf8.ofString f.1, f.2)) (List.mem_map_of_mem hf)]
  have hknown : (keyed.all fun p => ((fields.map (·.1)).map Utf8.ofString).contains p.1
      || canSkip (depthLimit - (level + 1)) p.2) = true := by
    rw [List.all_eq_true]
    intro p hp
    obtain ⟨f, hf, rfl⟩ := List.mem_map.1 hp
    rw [Bool.or_eq_true]
    refine Or.inl (List.contains_iff_mem.2 ?_)
    exact List.mem_map_of_mem (List.mem_map_of_mem hf)
  show (keyed? (fields.map fun f => (ofText f.1, f.2))).bind _ = _
  rw [keyed?_record fun f hf => hshort f.1 (List.mem_map_of_mem hf), Option.bind_some,
    if_pos hknown]
  exact mapM_keys hmember

/-- A record of definite items is definite. -/
theorem definite_record {fields : List (String × Item)} (hlength : fields.length < headLimit)
    (h : ∀ f ∈ fields, (Utf8.ofString f.1).length < headLimit ∧ Definite f.2) :
    Definite (record fields) := by
  refine ⟨by rw [List.length_map]; exact hlength, ?_⟩
  clear hlength
  induction fields with
  | nil => trivial
  | cons f rest ih =>
    obtain ⟨hname, hvalue⟩ := h f List.mem_cons_self
    exact ⟨⟨rfl, hname⟩, hvalue, ih fun g hg => h g (List.mem_cons_of_mem f hg)⟩

end Item

end FieldBridge.Cbor
