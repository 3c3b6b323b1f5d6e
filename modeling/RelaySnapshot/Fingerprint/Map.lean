import RelaySnapshot.Fingerprint

namespace RelaySnapshot

structure FingerprintMap (α : Type) where
  entries : List (Fingerprint × α)
  ascending : (entries.map Prod.fst).Pairwise (· < ·)

namespace FingerprintMap

variable {α : Type}

def empty : FingerprintMap α :=
  ⟨[], .nil⟩

instance : Inhabited (FingerprintMap α) := ⟨empty⟩

def size (m : FingerprintMap α) : Nat :=
  m.entries.length

def get? (m : FingerprintMap α) (key : Fingerprint) : Option α :=
  m.entries.lookup key

/--
Replaces what ascending entries hold for `key`, nothing as yet or a value, by what `f` makes of it.
-/
def alterEntries (key : Fingerprint) (f : Option α → α) :
    List (Fingerprint × α) → List (Fingerprint × α)
  | [] => [(key, f none)]
  | entry :: rest =>
    if key < entry.1 then (key, f none) :: entry :: rest
    else if entry.1 < key then entry :: alterEntries key f rest
    else (entry.1, f (some entry.2)) :: rest

theorem mem_keys_alterEntries {key x : Fingerprint} {f : Option α → α}
    {l : List (Fingerprint × α)} :
    x ∈ (alterEntries key f l).map Prod.fst ↔ x = key ∨ x ∈ l.map Prod.fst := by
  induction l with
  | nil => simp [alterEntries]
  | cons entry rest ih =>
    simp only [alterEntries]
    split
    · simp
    · split
      · rw [List.map_cons, List.mem_cons, ih, List.map_cons, List.mem_cons, or_left_comm]
      · rename_i h₁ h₂
        simp [Fingerprint.eq_of_not_lt h₁ h₂]

theorem ascending_alterEntries {key : Fingerprint} {f : Option α → α}
    {l : List (Fingerprint × α)} (h : (l.map Prod.fst).Pairwise (· < ·)) :
    ((alterEntries key f l).map Prod.fst).Pairwise (· < ·) := by
  induction l with
  | nil => simp [alterEntries]
  | cons entry rest ih =>
    have ⟨hentry, hrest⟩ := List.pairwise_cons.1 h
    simp only [alterEntries]
    split
    · rename_i hkey
      refine List.pairwise_cons.2 ⟨fun y hy => ?_, h⟩
      rcases List.mem_cons.1 hy with rfl | hy
      · exact hkey
      · exact Nat.lt_trans hkey (hentry y hy)
    · split
      · rename_i hkey
        refine List.pairwise_cons.2 ⟨fun y hy => ?_, ih hrest⟩
        rcases mem_keys_alterEntries.1 hy with rfl | hy
        · exact hkey
        · exact hentry y hy
      · exact h

def alter (m : FingerprintMap α) (key : Fingerprint) (f : Option α → α) : FingerprintMap α :=
  ⟨alterEntries key f m.entries, ascending_alterEntries m.ascending⟩

end FingerprintMap

end RelaySnapshot
