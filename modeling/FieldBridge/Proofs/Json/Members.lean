/-
  Members of JSON objects.

  Problem: an object holds its members in some order, names may repeat, and a key may be written in several
  ways.  The fields of a record are what stands under their names.

  1. **Look-up** — `under members name` is every value whose key says the name.  An object has the fields
     `names` if each of its keys says something and under each of the names there is one value
     (`fields?_object_iff`).  Nothing else of it is looked at.

  2. **Other members** — an object that holds fields in any order and among members of other names
     (`Extends`) has those fields (`fields?_of_extends`): taking the values under a name does not depend
     on the order (`under_perm`), and the others are under none of the names.

  3. **Damage** — an object in which a name is missing or repeated has no fields (`fields?_of_damaged`).
-/

import FieldBridge.Association
import FieldBridge.Proofs.Json.Tokens
import Mathlib.Data.List.Forall2

namespace FieldBridge.Json

/-! ## Values under a name -/

/-- The values whose keys say the name. -/
def under (members : List (Bytes × Json)) (name : String) : List Json :=
  (members.filter fun m => unescape? m.1 = some name).map (·.2)

theorem under_append (ms ns : List (Bytes × Json)) (name : String) :
    under (ms ++ ns) name = under ms name ++ under ns name := by
  simp [under]

theorem under_perm {ms ns : List (Bytes × Json)} (h : ms.Perm ns) (name : String) :
    (under ms name).Perm (under ns name) :=
  (h.filter _).map _

theorem under_eq_nil {ms : List (Bytes × Json)} {name : String}
    (h : ∀ m ∈ ms, unescape? m.1 ≠ some name) : under ms name = [] := by
  rw [under, List.filter_eq_nil_iff.2 (by simpa using h), List.map_nil]

/-- Once the keys are read, these are the values with the name. -/
theorem map_filter_named? {members : List (Bytes × Json)} {named : List (String × Json)}
    (h : named? members = some named) (name : String) :
    (named.filter fun m => m.1 = name).map (·.2) = under members name := by
  induction members generalizing named with
  | nil =>
    obtain rfl := Option.some.inj h
    rfl
  | cons m members ih =>
    obtain ⟨key, v⟩ := m
    obtain ⟨read, hkey, hrest⟩ := Option.bind_eq_some_iff.1 h
    obtain ⟨rest, hnamed, heq⟩ := Option.bind_eq_some_iff.1 hrest
    obtain rfl := Option.some.inj heq
    have htail := ih hnamed
    by_cases hname : read = name
    · simp [under, hkey, hname, htail]
    · simp [under, hkey, hname, htail]

theorem isSome_named?_iff {members : List (Bytes × Json)} :
    (named? members).isSome ↔ ∀ m ∈ members, (unescape? m.1).isSome := by
  induction members with
  | nil => simp [named?]
  | cons m members ih =>
    obtain ⟨key, v⟩ := m
    rw [List.forall_mem_cons, ← ih, named?]
    cases unescape? key <;> cases named? members <;> simp

theorem member?_eq_some_iff {named : List (String × Json)} {name : String} {v : Json} :
    member? named name = some v ↔ (named.filter fun m => m.1 = name).map (·.2) = [v] := by
  unfold member?
  split
  · rename_i m hone
    simp [hone]
  · rename_i hother
    simp only [reduceCtorEq, List.map_eq_singleton_iff, false_iff]
    rintro ⟨m, hone, -⟩
    exact hother m hone

/-- A partial function on a list: each of the results is one of them. -/
theorem mapM_eq_some_iff {α β : Type} {f : α → Option β} {l : List α} {values : List β} :
    l.mapM f = some values ↔ List.Forall₂ (fun a b => f a = some b) l values := by
  induction l generalizing values with
  | nil => simp [eq_comm]
  | cons a l ih =>
    rw [List.mapM_cons, List.forall₂_cons_left_iff]
    simp only [Option.bind_eq_bind, Option.bind_eq_some_iff, Option.pure_def, Option.some.injEq, ih]
    constructor
    · rintro ⟨b, hb, rest, hrest, rfl⟩
      exact ⟨b, rest, hb, hrest, rfl⟩
    · rintro ⟨b, rest, hb, hrest, rfl⟩
      exact ⟨b, hb, rest, hrest, rfl⟩

/-- **Look-up**: an object has fields if every key says something and every name stands over one value. -/
theorem fields?_object_iff {members : List (Bytes × Json)} {names : List String} {values : List Json} :
    (object members).fields? names = some values
      ↔ (∀ m ∈ members, (unescape? m.1).isSome)
        ∧ List.Forall₂ (fun name v => under members name = [v]) names values := by
  have hfields : (object members).fields? names
      = (named? members).bind fun named => names.mapM (member? named) := rfl
  rw [hfields, ← isSome_named?_iff]
  cases hnamed : named? members with
  | none => simp
  | some named =>
    have hunder : ∀ name v, member? named name = some v ↔ under members name = [v] := by
      intro name v
      rw [member?_eq_some_iff, map_filter_named? hnamed]
    simp [mapM_eq_some_iff, hunder]

/-! ## Fields among other members -/

/-- Fields as members, each under its name. -/
def keyed (fields : List (String × Json)) : List (Bytes × Json) :=
  fields.map fun f => (escape f.1.toList, f.2)

/-- Well-formed members of other names. -/
def Foreign (names : List String) (members : List (Bytes × Json)) : Prop :=
  ∀ m ∈ members, Quotable m.1 ∧ WellFormed m.2 ∧ ∃ name, unescape? m.1 = some name ∧ name ∉ names

/-- The value is the object of the fields, in any order and among any members of other names. -/
def Extends (fields : List (String × Json)) (v : Json) : Prop :=
  ∃ members others, v = .object members ∧ Foreign (fields.map (·.1)) others
    ∧ members.Perm (keyed fields ++ others)

/-- What the names of written members say. -/
theorem named?_keyed (fields : List (String × Json)) : named? (keyed fields) = some fields := by
  induction fields with
  | nil => rfl
  | cons f rest ih =>
    have htail : named? (rest.map fun f => (escape f.1.toList, f.2)) = some rest := ih
    simp [keyed, named?, unescape?_escape, htail]

/-- A record is the object of its fields. -/
theorem extends_record (fields : List (String × Json)) : Extends fields (record fields) :=
  ⟨keyed fields, [], rfl, by simp [Foreign], by simp⟩

theorem under_keyed (fields : List (String × Json)) (name : String) :
    under (keyed fields) name = (fields.filter fun f => f.1 = name).map (·.2) :=
  (map_filter_named? (named?_keyed fields) name).symm

/-- Under the name of a field there is its value and nothing else. -/
theorem under_of_perm {fields : List (String × Json)} (hnodup : (fields.map (·.1)).Nodup)
    {members others : List (Bytes × Json)} (hothers : Foreign (fields.map (·.1)) others)
    (hperm : members.Perm (keyed fields ++ others)) {f : String × Json} (hf : f ∈ fields) :
    under members f.1 = [f.2] := by
  have hforeign : under others f.1 = [] := by
    refine under_eq_nil fun m hm hname => ?_
    obtain ⟨-, -, name, hread, hother⟩ := hothers m hm
    obtain rfl := Option.some.inj (hread.symm.trans hname)
    exact hother (List.mem_map_of_mem hf)
  have hall := under_perm hperm f.1
  rw [under_append, under_keyed, filter_key_of_mem hnodup hf, hforeign] at hall
  exact List.perm_singleton.1 hall

theorem fields?_of_extends {fields : List (String × Json)} (names : List String)
    (hnames : fields.map (·.1) = names) (hnodup : names.Nodup) {v : Json} (h : Extends fields v) :
    v.fields? names = some (fields.map (·.2)) := by
  subst hnames
  obtain ⟨members, others, rfl, hothers, hperm⟩ := h
  refine fields?_object_iff.2 ⟨?_, ?_⟩
  · intro m hm
    rcases List.mem_append.1 (hperm.mem_iff.1 hm) with hm | hm
    · obtain ⟨f, -, rfl⟩ := List.mem_map.1 hm
      simp [unescape?_escape]
    · obtain ⟨-, -, name, hread, -⟩ := hothers m hm
      simp [hread]
  · rw [List.forall₂_map_left_iff, List.forall₂_map_right_iff, List.forall₂_same]
    exact fun f hf => under_of_perm hnodup hothers hperm hf

theorem wellFormedMembers_iff {members : List (Bytes × Json)} :
    WellFormedMembers members ↔ ∀ m ∈ members, Quotable m.1 ∧ WellFormed m.2 := by
  induction members with
  | nil => simp [WellFormedMembers]
  | cons m members ih =>
    obtain ⟨key, v⟩ := m
    simp [WellFormedMembers, ih, and_assoc]

/-- With well-formed values for fields, it is well formed. -/
theorem wellFormed_of_extends {fields : List (String × Json)} (hfields : ∀ f ∈ fields, WellFormed f.2)
    {v : Json} (h : Extends fields v) : WellFormed v := by
  obtain ⟨members, others, rfl, hothers, hperm⟩ := h
  refine wellFormedMembers_iff.2 fun m hm => ?_
  rcases List.mem_append.1 (hperm.mem_iff.1 hm) with hm | hm
  · obtain ⟨f, hf, rfl⟩ := List.mem_map.1 hm
    exact ⟨quotable_escape _, hfields f hf⟩
  · obtain ⟨hkey, hvalue, -⟩ := hothers m hm
    exact ⟨hkey, hvalue⟩

/-! ## Missing and repeated members -/

/-- An object in which one of the names stands over no value or over several. -/
def Damaged (names : List String) (v : Json) : Prop :=
  ∃ members, v = .object members ∧ ∃ name ∈ names, (under members name).length ≠ 1

theorem fields?_of_damaged {names : List String} {v : Json} (h : Damaged names v) :
    v.fields? names = none := by
  obtain ⟨members, rfl, name, hname, hlength⟩ := h
  refine Option.eq_none_iff_forall_ne_some.2 fun values hvalues => ?_
  obtain ⟨-, hall⟩ := fields?_object_iff.1 hvalues
  obtain ⟨i, hi, rfl⟩ := List.mem_iff_getElem.1 hname
  have hvalue : i < values.length := hall.length_eq ▸ hi
  have hone : under members names[i] = [values[i]] := hall.get hi hvalue
  exact hlength (by rw [hone, List.length_singleton])

end FieldBridge.Json
