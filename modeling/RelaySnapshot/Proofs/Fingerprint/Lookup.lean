import Mathlib.Data.List.Nodup
import Mathlib.Data.List.Perm.Basic
import RelaySnapshot.Fingerprint.Map
import RelaySnapshot.Fingerprint.Set

namespace RelaySnapshot

namespace Fingerprint

theorem lt_irrefl (a : Fingerprint) : ¬a < a :=
  Nat.lt_irrefl a.value

theorem lt_trans {a b c : Fingerprint} (hab : a < b) (hbc : b < c) : a < c :=
  Nat.lt_trans hab hbc

theorem ne_of_lt {a b : Fingerprint} (h : a < b) : a ≠ b := by
  rintro rfl
  exact lt_irrefl a h

end Fingerprint

namespace FingerprintMap

variable {α : Type}

theorem nodup_keys (m : FingerprintMap α) : (m.entries.map Prod.fst).Nodup :=
  m.ascending.imp Fingerprint.ne_of_lt

@[simp]
theorem get?_empty (fp : Fingerprint) : (empty : FingerprintMap α).get? fp = none := rfl

theorem mem_keys_iff {m : FingerprintMap α} {fp : Fingerprint} :
    fp ∈ m.entries.map Prod.fst ↔ (m.get? fp).isSome := by
  rw [get?, List.lookup_isSome_iff]
  constructor
  · intro hmem
    obtain ⟨entry, hentry, rfl⟩ := List.mem_map.mp hmem
    exact ⟨entry, hentry, by simp⟩
  · rintro ⟨entry, hentry, heq⟩
    exact List.mem_map.mpr ⟨entry, hentry, (beq_iff_eq.mp heq).symm⟩

theorem lookup_cons_eq (fp : Fingerprint) (entry : Fingerprint × α)
    (rest : List (Fingerprint × α)) :
    (entry :: rest).lookup fp = if fp = entry.1 then some entry.2 else rest.lookup fp := by
  obtain ⟨key, a⟩ := entry
  rw [List.lookup_cons]
  by_cases heq : fp = key
  · simp [heq]
  · rw [beq_eq_false_iff_ne.mpr heq, if_neg heq]

/-- A key below all others has no entry. -/
theorem lookup_eq_none_of_lt {fp : Fingerprint} {l : List (Fingerprint × α)}
    (h : ∀ key ∈ l.map Prod.fst, fp < key) : l.lookup fp = none := by
  rw [List.lookup_eq_none_iff]
  intro entry hentry
  have hlt := h entry.1 (List.mem_map_of_mem hentry)
  simpa using Fingerprint.ne_of_lt hlt

theorem lookup_alterEntries (key fp : Fingerprint) (f : Option α → α)
    {l : List (Fingerprint × α)} (h : (l.map Prod.fst).Pairwise (· < ·)) :
    (alterEntries key f l).lookup fp =
      if fp = key then some (f (l.lookup key)) else l.lookup fp := by
  induction l with
  | nil => rw [alterEntries, lookup_cons_eq, List.lookup_nil, List.lookup_nil]
  | cons entry rest ih =>
      obtain ⟨hentry, hrest⟩ := List.pairwise_cons.mp h
      rw [alterEntries]
      split
      · rename_i hlt
        have hnone : (entry :: rest).lookup key = none := by
          apply lookup_eq_none_of_lt
          intro other hother
          rcases List.mem_cons.mp hother with rfl | hother
          · exact hlt
          · exact Fingerprint.lt_trans hlt (hentry other hother)
        rw [lookup_cons_eq, hnone]
      · split
        · rename_i hlt
          rw [lookup_cons_eq, ih hrest, lookup_cons_eq, lookup_cons_eq,
            if_neg (Fingerprint.ne_of_lt hlt).symm]
          by_cases heq : fp = entry.1
          · rw [if_pos heq, if_pos heq, if_neg (heq ▸ Fingerprint.ne_of_lt hlt)]
          · rw [if_neg heq, if_neg heq]
        · rename_i hnlt hngt
          have heq : key = entry.1 := Fingerprint.eq_of_not_lt hnlt hngt
          subst heq
          rw [lookup_cons_eq, lookup_cons_eq, lookup_cons_eq, if_pos rfl]
          split <;> simp_all

@[simp]
theorem get?_alter (m : FingerprintMap α) (key fp : Fingerprint) (f : Option α → α) :
    (m.alter key f).get? fp = if fp = key then some (f (m.get? key)) else m.get? fp :=
  lookup_alterEntries key fp f m.ascending

theorem mem_entries_iff {m : FingerprintMap α} {fp : Fingerprint} {a : α} :
    (fp, a) ∈ m.entries ↔ m.get? fp = some a := by
  obtain ⟨entries, hascending⟩ := m
  change (fp, a) ∈ entries ↔ entries.lookup fp = some a
  induction entries with
  | nil => simp
  | cons entry rest ih =>
      obtain ⟨hentry, hrest⟩ := List.pairwise_cons.mp hascending
      rw [lookup_cons_eq, List.mem_cons, ih hrest]
      by_cases heq : fp = entry.1
      · subst heq
        have hnone : rest.lookup entry.1 = none := lookup_eq_none_of_lt hentry
        rw [if_pos rfl, hnone, Prod.ext_iff]
        simp [eq_comm]
      · simp [heq, Prod.ext_iff]

/-- Maps that hold the same for each fingerprint are equal. -/
theorem ext_get? {m m' : FingerprintMap α} (h : ∀ fp, m.get? fp = m'.get? fp) : m = m' := by
  have hmem : ∀ entry, entry ∈ m.entries ↔ entry ∈ m'.entries := by
    rintro ⟨fp, a⟩
    rw [mem_entries_iff, mem_entries_iff, h fp]
  have hperm : m.entries.Perm m'.entries :=
    (List.perm_ext_iff_of_nodup m.nodup_keys.of_map m'.nodup_keys.of_map).mpr hmem
  have hasymm : ∀ a b : Fingerprint × α, a ∈ m.entries → b ∈ m'.entries →
      a.1 < b.1 → b.1 < a.1 → a = b := by
    intro a b _ _ hab hba
    exact absurd (Fingerprint.lt_trans hab hba) (Fingerprint.lt_irrefl a.1)
  have heq : m.entries = m'.entries :=
    hperm.eq_of_pairwise hasymm (List.pairwise_map.mp m.ascending)
      (List.pairwise_map.mp m'.ascending)
  cases m
  cases m'
  simp_all

end FingerprintMap

namespace FingerprintSet

theorem mem_insertAll {s : FingerprintSet} {l : List Fingerprint} {fp : Fingerprint} :
    fp ∈ s.insertAll l ↔ fp ∈ l ∨ fp ∈ s := by
  induction l generalizing s with
  | nil => simp [insertAll]
  | cons x l ih =>
      change fp ∈ (s.insert x).insertAll l ↔ _
      rw [ih, mem_insert, List.mem_cons, or_left_comm, or_assoc]

theorem mem_ofList {l : List Fingerprint} {fp : Fingerprint} : fp ∈ ofList l ↔ fp ∈ l := by
  rw [ofList, mem_insertAll]
  exact or_iff_left List.not_mem_nil

/-- Sets with the same members are equal. -/
theorem ext_mem {s s' : FingerprintSet} (h : ∀ fp, fp ∈ s ↔ fp ∈ s') : s = s' := by
  have hnodup (s : FingerprintSet) : s.members.Nodup := s.ascending.imp Fingerprint.ne_of_lt
  have hperm : s.members.Perm s'.members :=
    (List.perm_ext_iff_of_nodup (hnodup s) (hnodup s')).mpr h
  have hasymm : ∀ a b : Fingerprint, a ∈ s.members → b ∈ s'.members → a < b → b < a → a = b := by
    intro a b _ _ hab hba
    exact absurd (Fingerprint.lt_trans hab hba) (Fingerprint.lt_irrefl a)
  have heq : s.members = s'.members :=
    hperm.eq_of_pairwise hasymm s.ascending s'.ascending
  cases s
  cases s'
  simp_all

end FingerprintSet

end RelaySnapshot
