import RelaySnapshot.Fingerprint

namespace RelaySnapshot

structure FingerprintSet where
  members : List Fingerprint
  ascending : members.Pairwise (· < ·)
  deriving DecidableEq

namespace FingerprintSet

theorem ascending_nil : ([] : List Fingerprint).Pairwise (· < ·) := .nil

def empty : FingerprintSet :=
  ⟨[], ascending_nil⟩

instance : Inhabited FingerprintSet := ⟨empty⟩

instance : Membership Fingerprint FingerprintSet := ⟨fun s x => x ∈ s.members⟩

instance (x : Fingerprint) (s : FingerprintSet) : Decidable (x ∈ s) :=
  inferInstanceAs (Decidable (x ∈ s.members))

def contains (s : FingerprintSet) (x : Fingerprint) : Bool :=
  decide (x ∈ s)

def isEmpty (s : FingerprintSet) : Bool :=
  s.members.isEmpty

/-- The members but for `x`. -/
def erase (s : FingerprintSet) (x : Fingerprint) : FingerprintSet :=
  ⟨s.members.filter (· ≠ x), s.ascending.filter _⟩

theorem mem_erase {s : FingerprintSet} {x y : Fingerprint} : y ∈ s.erase x ↔ y ∈ s ∧ y ≠ x := by
  change y ∈ s.members.filter (· ≠ x) ↔ y ∈ s.members ∧ y ≠ x
  simp

/-- Puts `x` at its place in an ascending list, if it is not there yet. -/
def insertMember (x : Fingerprint) : List Fingerprint → List Fingerprint
  | [] => [x]
  | y :: rest =>
    if x < y then x :: y :: rest
    else if y < x then y :: insertMember x rest
    else y :: rest

theorem mem_insertMember {x y : Fingerprint} {l : List Fingerprint} :
    y ∈ insertMember x l ↔ y = x ∨ y ∈ l := by
  induction l with
  | nil => simp [insertMember]
  | cons z rest ih =>
    simp only [insertMember]
    split
    · simp
    · split
      · simp [ih, or_left_comm]
      · rename_i h₁ h₂
        simp [Fingerprint.eq_of_not_lt h₁ h₂]

theorem pairwise_insertMember {x : Fingerprint} {l : List Fingerprint}
    (h : l.Pairwise (· < ·)) : (insertMember x l).Pairwise (· < ·) := by
  induction l with
  | nil => simp [insertMember]
  | cons z rest ih =>
    have ⟨hz, hrest⟩ := List.pairwise_cons.1 h
    simp only [insertMember]
    split
    · rename_i hx
      refine List.pairwise_cons.2 ⟨fun y hy => ?_, h⟩
      rcases List.mem_cons.1 hy with rfl | hy
      · exact hx
      · exact Nat.lt_trans hx (hz y hy)
    · split
      · rename_i hx
        refine List.pairwise_cons.2 ⟨fun y hy => ?_, ih hrest⟩
        rcases mem_insertMember.1 hy with rfl | hy
        · exact hx
        · exact hz y hy
      · exact h

def insert (s : FingerprintSet) (x : Fingerprint) : FingerprintSet :=
  ⟨insertMember x s.members, pairwise_insertMember s.ascending⟩

def insertAll (s : FingerprintSet) (l : List Fingerprint) : FingerprintSet :=
  l.foldl insert s

def ofList (l : List Fingerprint) : FingerprintSet :=
  empty.insertAll l

theorem mem_insert {s : FingerprintSet} {x y : Fingerprint} :
    y ∈ s.insert x ↔ y = x ∨ y ∈ s :=
  mem_insertMember

end FingerprintSet

end RelaySnapshot
