/-
  The topic of a record.

  A record's own topic is put together of its topic, its partition and its key.  The topic may hold
  anything, separators and digits too; but the partition is digits and the key is symbols of the safe
  alphabet, and neither of these is a separator or a wildcard.

  1. **Key** — it is what stands behind the last separator, so it is read back (`keyOfLevel?_level`).

  2. **Record** — what stands in front of the last separator is split in the same way, so all three parts
     can be told from the whole (`level_inj_iff`).

  3. **Shape** — partition and key add two levels and no wildcard (`count_level`, `mem_level_iff`).
-/

import FieldBridge.Broker.Record
import FieldBridge.Proofs.Number.Decimal
import FieldBridge.Proofs.Text.Base64
import FieldBridge.Proofs.Text.Cut

namespace FieldBridge.Record

/-- The characters with a meaning in topics: the separator of levels and the wildcards. -/
def special : List Char := ['/', '+', '#']

/-- The written key holds no character with a meaning. -/
theorem notMem_encode {c : Char} (hc : c ∈ special) (key : Bytes) : c ∉ Base64.urlSafe.encode key := by
  have hsymbol : ∀ n < 64, Base64.urlSafe.symbol n ∉ special := by decide
  intro hmem
  rcases Base64.Variant.mem_encode hmem with ⟨n, hn, rfl⟩ | ⟨hpadded, -⟩
  · exact hsymbol n hn hc
  · exact absurd hpadded (by decide)

/-- Nor does the written partition. -/
theorem notMem_digits {c : Char} (hc : c ∈ special) (n : Nat) : c ∉ Decimal.digits n := by
  have hdigit : ∀ d < 10, Decimal.digit d ∉ special := by decide
  intro hmem
  obtain ⟨d, hd, rfl⟩ := Decimal.mem_digits hmem
  exact hdigit d hd hc

/-- **Key**: the topic of a record holds its key. -/
theorem keyOfLevel?_level (r : Record) : keyOfLevel? r.level = some r.key := by
  have hlast : lastLevel r.level = Base64.urlSafe.encode r.key := by
    rw [lastLevel, level, Text.getLast?_pieces_append _ (notMem_encode (by decide) r.key)]
    rfl
  rw [keyOfLevel?, hlast, Base64.proper_urlSafe.decode?_encode]

/-- **Record**: records with one topic have all parts in common. -/
theorem level_inj_iff (r r' : Record) : r.level = r'.level ↔
    r.topic = r'.topic ∧ r.partition = r'.partition ∧ r.key = r'.key := by
  constructor
  · intro h
    -- the key is cut off first, then the partition
    obtain ⟨hfront, hkey⟩ := Text.append_sep_inj (notMem_encode (by decide) r.key)
      (notMem_encode (by decide) r'.key) h
    obtain ⟨htopic, hpartition⟩ := Text.append_sep_inj
      (notMem_digits (by decide) r.partition.toNat) (notMem_digits (by decide) r'.partition.toNat) hfront
    refine ⟨String.toList_injective htopic, ?_, ?_⟩
    · have hvalue := congrArg Decimal.value hpartition
      rw [Decimal.value_digits, Decimal.value_digits] at hvalue
      exact UInt32.toNat_inj.1 hvalue
    · have hread := congrArg Base64.urlSafe.decode? hkey
      rw [Base64.proper_urlSafe.decode?_encode, Base64.proper_urlSafe.decode?_encode] at hread
      exact Option.some.inj hread
  · rintro ⟨htopic, hpartition, hkey⟩
    rw [level, level, htopic, hpartition, hkey]

/-- Wildcards can come from the topic only. -/
theorem mem_level_iff (r : Record) {c : Char} (hc : c ∈ special) (hsep : c ≠ '/') :
    c ∈ r.level ↔ c ∈ r.topic.toList := by
  simp [level, partitionLevel, notMem_encode hc, notMem_digits hc, hsep]

/-- Partition and key are one level each. -/
theorem count_level (r : Record) : r.level.count '/' = r.topic.toList.count '/' + 2 := by
  have hkey := List.count_eq_zero_of_not_mem (notMem_encode (by decide : '/' ∈ special) r.key)
  have hpartition :=
    List.count_eq_zero_of_not_mem (notMem_digits (by decide : '/' ∈ special) r.partition.toNat)
  simp only [level, partitionLevel, List.count_append, List.count_cons_self, hkey, hpartition]

/-- **Identification**: the topic of a record holds its key and tells it from every record with another
topic, partition or key; the key adds no wildcard and exactly one level. -/
theorem level_identifies :
    (∀ r : Record, keyOfLevel? r.level = some r.key)
    ∧ (∀ r r' : Record, r.level = r'.level ↔
      r.topic = r'.topic ∧ r.partition = r'.partition ∧ r.key = r'.key)
    ∧ (∀ r : Record, ('+' ∈ r.level ↔ '+' ∈ r.topic.toList)
      ∧ ('#' ∈ r.level ↔ '#' ∈ r.topic.toList))
    ∧ ∀ r : Record, r.level.count '/' = (partitionLevel r.topic.toList r.partition).count '/' + 1
      ∧ r.level.count '/' = r.topic.toList.count '/' + 2 := by
  refine ⟨keyOfLevel?_level, level_inj_iff, fun r => ⟨?_, ?_⟩, fun r => ⟨?_, count_level r⟩⟩
  · exact r.mem_level_iff (by decide) (by decide)
  · exact r.mem_level_iff (by decide) (by decide)
  · rw [level, List.count_append, List.count_cons_self,
      List.count_eq_zero_of_not_mem (notMem_encode (by decide) r.key)]

end FieldBridge.Record
