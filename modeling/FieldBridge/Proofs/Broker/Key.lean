/-
  The key that a topic holds.

  Not every topic was made for a record, so the last level of a topic may be any text.

  1. **Last level** — it is what stands behind the last separator (`lastLevel_eq_iff`).

  2. **Key** — a level is read as the key of which it is the written form, and no other level is read
     (`keyOfLevel?_eq_some_iff`).  So two different levels never hold the same key, and a level holds none
     if it is filled up, has symbols of the usual alphabet, or is too long or too short by one symbol or by
     some bits.
-/

import FieldBridge.Proofs.Broker.Level

namespace FieldBridge.Record

open Base64 (urlSafe)

theorem lastLevel_eq_iff {s last : List Char} : lastLevel s = last ↔ Text.IsLast '/' s last := by
  rw [← Text.getLast?_pieces_eq_some_iff, lastLevel]
  obtain ⟨p, hp⟩ := Option.ne_none_iff_exists'.1
    (List.getLast?_eq_none_iff.not.2 (Text.pieces_ne_nil '/' s))
  simp [hp]

theorem keyOfLevel?_of_isLast {s last : List Char} (h : Text.IsLast '/' s last) :
    keyOfLevel? s = urlSafe.decode? last := by
  rw [keyOfLevel?, lastLevel_eq_iff.2 h]

/-- **Key**: a topic holds a key exactly if its last level is the written form of the key. -/
theorem keyOfLevel?_eq_some_iff {s : List Char} {key : Bytes} :
    keyOfLevel? s = some key ↔ Text.IsLast '/' s (urlSafe.encode key) := by
  rw [keyOfLevel?, Base64.proper_urlSafe.decode?_eq_some_iff, lastLevel_eq_iff]

/-- A symbol of the usual alphabet that the safe one lacks is not read. -/
theorem decode?_of_mem_special {s : List Char} {c : Char} (hc : c ∈ special) (h : c ∈ s) :
    urlSafe.decode? s = none := by
  cases hread : urlSafe.decode? s with
  | none => rfl
  | some key =>
    obtain rfl := Base64.proper_urlSafe.decode?_eq_some_iff.1 hread
    exact absurd h (notMem_encode hc key)

/-- **Canonical keys**: a topic holds a key exactly if what stands behind its last separator is the key's
written form.  No level is read that is filled up, that holds `+` or `/`, that has an impossible length or
that has unused bits which are not zero; and different levels never hold the same key. -/
theorem canonical_keys :
    (∀ (s : List Char) (key : Bytes),
      keyOfLevel? s = some key ↔ Text.IsLast '/' s (urlSafe.encode key))
    ∧ (∀ s last : List Char, Text.IsLast '/' s last → keyOfLevel? s = urlSafe.decode? last)
    ∧ (∀ last : List Char, urlSafe.Irregular last ∨ '+' ∈ last ∨ '/' ∈ last →
      urlSafe.decode? last = none)
    ∧ ∀ (s s' last last' : List Char) (key : Bytes), Text.IsLast '/' s last →
      Text.IsLast '/' s' last' → keyOfLevel? s = some key → keyOfLevel? s' = some key →
      last = last' := by
  refine ⟨fun s key => keyOfLevel?_eq_some_iff, fun s last h => keyOfLevel?_of_isLast h, ?_, ?_⟩
  · rintro last (hirregular | hplus | hsep)
    · exact Base64.proper_urlSafe.decode?_irregular rfl hirregular
    · exact decode?_of_mem_special (by decide) hplus
    · exact decode?_of_mem_special (by decide) hsep
  · intro s s' last last' key hlast hlast' hkey hkey'
    -- both levels are the written form of the key
    rw [keyOfLevel?_of_isLast hlast, Base64.proper_urlSafe.decode?_eq_some_iff] at hkey
    rw [keyOfLevel?_of_isLast hlast', Base64.proper_urlSafe.decode?_eq_some_iff] at hkey'
    exact hkey.trans hkey'.symm

/-- The key `AB` is held by its own level and by no level that is filled up. -/
theorem canonical_keys_paddedExample :
    keyOfLevel? "opcua-events/0/QUI=".toList = none
    ∧ ∀ s last : List Char, Text.IsLast '/' s last → keyOfLevel? s = some [0x41, 0x42] →
      last = "QUI".toList := by
  obtain ⟨hkey, hlevel, hrefused, hsame⟩ := canonical_keys
  have hpadded : Text.IsLast '/' "opcua-events/0/QUI=".toList "QUI=".toList :=
    ⟨by decide, Or.inr ⟨"opcua-events/0".toList, by decide⟩⟩
  have hplain : Text.IsLast '/' "topic/QUI".toList "QUI".toList :=
    ⟨by decide, Or.inr ⟨"topic".toList, by decide⟩⟩
  refine ⟨?_, fun s last hlast hread => ?_⟩
  · rw [hlevel _ _ hpadded]
    exact hrefused _ (Or.inl (Or.inl (by decide)))
  · exact hsame _ _ _ _ _ hlast hplain hread ((hkey _ _).2 hplain)

end FieldBridge.Record
