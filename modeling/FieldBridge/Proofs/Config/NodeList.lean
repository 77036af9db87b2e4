/-
  Node lists and their entries.

  A node list is cut at every comma, its pieces are trimmed and the blank ones dropped.  So many texts
  write the same list, and one of them has nothing to spare: the entries with commas between them.

  1. **Specification** — what can be an entry (`IsEntry`): a text without commas that begins and ends with
     characters other than blanks, and is not empty.

  2. **Entries** — every piece gives one entry or none (`isEntry_of_mem`), an entry gives itself
     (`entriesOf_entry`), and a comma divides the entries in front of it from those behind
     (`entriesOf_append`).

  3. **Normal form** (`parseNodes_canonical`) — the lists that are read are the lists of entries, and each
     is read from its entries with commas between them.
-/

import FieldBridge.Config
import FieldBridge.Proofs.Text.Cut

namespace FieldBridge.Config

/-! ## Specification -/

/-- A text that can be an entry of a node list. -/
structure IsEntry (entry : String) : Prop where
  ne_nil : entry.toList ≠ []
  notMem : ',' ∉ entry.toList
  first : ∀ c ∈ entry.toList.head?, Text.isBlank c = false
  last : ∀ c ∈ entry.toList.getLast?, Text.isBlank c = false

/-! ## Entries -/

/-- The entries of a text, as characters. -/
def entriesOf (s : List Char) : List (List Char) :=
  ((Text.pieces ',' s).map Text.trim).filter (· ≠ [])

theorem parseNodes_eq (s : String) : parseNodes s = (entriesOf s.toList).map String.ofList := rfl

/-- A comma divides the entries in front of it from those behind. -/
theorem entriesOf_append (s t : List Char) : entriesOf (s ++ ',' :: t) = entriesOf s ++ entriesOf t := by
  simp only [entriesOf, Text.pieces_append, List.map_append, List.filter_append]

/-- Every entry is a piece between commas without the blanks around it. -/
theorem isEntry_of_mem {s entry : List Char} (h : entry ∈ entriesOf s) : IsEntry (String.ofList entry) := by
  obtain ⟨hmem, hne⟩ := List.mem_filter.1 h
  obtain ⟨piece, hpiece, rfl⟩ := List.mem_map.1 hmem
  constructor
  case ne_nil => simpa using hne
  case notMem =>
    intro hcomma
    rw [String.toList_ofList] at hcomma
    exact Text.notMem_of_mem_pieces hpiece (Text.mem_of_mem_trim hcomma)
  case first =>
    rw [String.toList_ofList]
    exact Text.trim_first
  case last =>
    rw [String.toList_ofList]
    exact Text.trim_last

/-- An entry is the only entry of its text. -/
theorem entriesOf_entry {entry : String} (h : IsEntry entry) : entriesOf entry.toList = [entry.toList] := by
  have htrim : Text.trim entry.toList = entry.toList := Text.trim_eq_self h.first h.last
  rw [entriesOf, Text.pieces_of_notMem h.notMem, List.map_singleton, htrim]
  exact List.filter_cons_of_pos (by simpa using h.ne_nil)

/-- Entries with commas between them are the entries of that text. -/
theorem entriesOf_intercalate {entries : List String} (h : ∀ entry ∈ entries, IsEntry entry) :
    entriesOf ([','].intercalate (entries.map String.toList)) = entries.map String.toList := by
  induction entries with
  | nil => rfl
  | cons entry rest ih =>
    have hentry := entriesOf_entry (h entry List.mem_cons_self)
    have hrest := ih fun other hother => h other (List.mem_cons_of_mem entry hother)
    cases rest with
    | nil => rwa [List.map_singleton, List.intercalate_singleton]
    | cons next rest =>
      rw [List.map_cons, List.map_cons, List.intercalate_cons_cons, List.append_assoc,
        List.singleton_append, entriesOf_append, hentry, ← List.map_cons, hrest]
      rfl

/-! ## Node lists -/

theorem parseNodes_append (s t : String) :
    parseNodes (s ++ "," ++ t) = parseNodes s ++ parseNodes t := by
  have htext : (s ++ "," ++ t).toList = s.toList ++ ',' :: t.toList := by
    simp only [String.toList_append, List.append_assoc]
    rfl
  rw [parseNodes_eq, htext, entriesOf_append, List.map_append]
  rfl

theorem isEntry_of_mem_parseNodes {s entry : String} (h : entry ∈ parseNodes s) : IsEntry entry := by
  obtain ⟨chars, hchars, rfl⟩ := List.mem_map.1 h
  exact isEntry_of_mem hchars

/-- A list is read from its entries with commas between them exactly if each of them can be an entry. -/
theorem parseNodes_intercalate_iff {entries : List String} :
    parseNodes (",".intercalate entries) = entries ↔ ∀ entry ∈ entries, IsEntry entry := by
  constructor
  · intro h entry hentry
    rw [← h] at hentry
    exact isEntry_of_mem_parseNodes hentry
  · intro h
    have htext : (",".intercalate entries).toList = [','].intercalate (entries.map String.toList) :=
      String.toList_intercalate
    rw [parseNodes_eq, htext, entriesOf_intercalate h, List.map_map]
    simp [Function.comp_def]

/-- **Normal form**: reading takes a comma between texts to the concatenation of their lists; it gives
entries only; and a list of texts is what its join with commas is read as if, and only if, each of them
can be an entry.  So a list that was read is read again from its join, in the same order and with the same
repetitions. -/
theorem parseNodes_canonical :
    (∀ s t : String, parseNodes (s ++ "," ++ t) = parseNodes s ++ parseNodes t)
    ∧ (∀ s : String, (∀ entry ∈ parseNodes s, IsEntry entry)
      ∧ parseNodes (",".intercalate (parseNodes s)) = parseNodes s)
    ∧ ∀ entries : List String,
      parseNodes (",".intercalate entries) = entries ↔ ∀ entry ∈ entries, IsEntry entry := by
  refine ⟨parseNodes_append, ?_, fun entries => parseNodes_intercalate_iff⟩
  intro s
  have hentries : ∀ entry ∈ parseNodes s, IsEntry entry := fun entry => isEntry_of_mem_parseNodes
  exact ⟨hentries, parseNodes_intercalate_iff.2 hentries⟩

/-- A node that is named twice is read twice, whatever blanks and commas stand around it. -/
theorem parseNodes_canonical_repeatedExample :
    "ns=2;s=A" ∈ parseNodes " ns=2;s=A ,,\ti=7,ns=2;s=A, "
    ∧ IsEntry "ns=2;s=A"
    ∧ parseNodes (",".intercalate (parseNodes " ns=2;s=A ,,\ti=7,ns=2;s=A, "))
      = ["ns=2;s=A", "i=7", "ns=2;s=A"] := by
  have hread : parseNodes " ns=2;s=A ,,\ti=7,ns=2;s=A, " = ["ns=2;s=A", "i=7", "ns=2;s=A"] := by decide
  have hmem : "ns=2;s=A" ∈ parseNodes " ns=2;s=A ,,\ti=7,ns=2;s=A, " := by
    rw [hread]
    exact List.mem_cons_self
  obtain ⟨-, hcanonical, -⟩ := parseNodes_canonical
  obtain ⟨hentries, hjoin⟩ := hcanonical " ns=2;s=A ,,\ti=7,ns=2;s=A, "
  exact ⟨hmem, hentries _ hmem, hjoin.trans hread⟩

end FieldBridge.Config
