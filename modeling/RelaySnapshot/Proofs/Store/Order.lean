import Mathlib.Data.Prod.Lex
import RelaySnapshot.Proofs.Store.Reading

/-!
# The order of what is read back

A table is sorted by the texts of its times. In the years that are written with four digits that is
the order of time, and rows that agree in all their keys come in the order in which they were
written.
-/

namespace RelaySnapshot

/-- The items in the order of their keys, those with one key in the order in which they stood. -/
structure SortedBy {α κ : Type} [LE κ] [DecidableEq κ] (key : α → κ) (items sorted : List α) :
    Prop where
  ordered : sorted.Pairwise fun a b => key a ≤ key b
  stable : ∀ k, sorted.filter (fun a => key a = k) = items.filter fun a => key a = k

theorem sortedBy_mergeSort {α κ : Type} [LinearOrder κ] (key : α → κ) (items : List α) :
    SortedBy key items (items.mergeSort fun a b => decide (key a ≤ key b)) := by
  have htrans (a b c : α) (hab : decide (key a ≤ key b) = true)
      (hbc : decide (key b ≤ key c) = true) : decide (key a ≤ key c) = true :=
    decide_eq_true ((of_decide_eq_true hab).trans (of_decide_eq_true hbc))
  have htotal (a b : α) : (decide (key a ≤ key b) || decide (key b ≤ key a)) = true := by
    simpa using le_total (key a) (key b)
  refine ⟨(List.pairwise_mergeSort htrans htotal items).imp of_decide_eq_true, fun k => ?_⟩
  -- The items with one key are in order already, so sorting keeps them as they are.
  have hpart : (items.filter fun a => key a = k).Pairwise fun a b => decide (key a ≤ key b) := by
    rw [List.pairwise_filter]
    apply List.pairwise_of_forall
    intro a b ha hb
    rw [of_decide_eq_true ha, of_decide_eq_true hb]
    simp
  have hsub := (List.sublist_mergeSort htrans htotal hpart List.filter_sublist).filter
    fun a => key a = k
  rw [List.filter_filter] at hsub
  simp only [Bool.and_self] at hsub
  exact (hsub.eq_of_length ((List.mergeSort_perm items _).filter _).length_eq.symm).symm

theorem sortedBy_map_mergeSort {α β κ : Type} [LinearOrder κ] {le : α → α → Bool} {f : α → β}
    {key : β → κ} {items : List α}
    (hle : ∀ a ∈ items, ∀ b ∈ items, le a b = decide (key (f a) ≤ key (f b))) :
    SortedBy key (items.map f) ((items.mergeSort le).map f) := by
  have hmap : (items.mergeSort le).map f =
      (items.map f).mergeSort fun x y => decide (key x ≤ key y) := List.map_mergeSort hle
  rw [hmap]
  exact sortedBy_mergeSort key (items.map f)

/-! ### Keys -/

/-- Descriptors are in the order of their relays, and for one relay of the times they begin. -/
def StoredDescriptor.key (d : StoredDescriptor) : Int ×ₗ Int :=
  toLex (d.node, d.validity.start.rank)

/-- Edges are in the order of the first relay, of the second one, and of the times they begin. -/
def FamilyEdge.key (e : FamilyEdge) : Int ×ₗ Int ×ₗ Int :=
  toLex (e.first, toLex (e.second, e.time.start.rank))

namespace Timestamp

/-- The year is written with four digits. -/
def Plain (t : Instant) : Prop :=
  0 ≤ t.date.year ∧ t.date.year ≤ 9999

theorem write_le_write_iff {a b : Instant} (ha : Plain a) (hb : Plain b) :
    write a ≤ write b ↔ a.rank ≤ b.rank := by
  constructor
  · intro hle
    by_contra hlt
    refine absurd (write_lt_write ?_ ha.2 (not_le.mp hlt)) (not_lt.mpr hle)
    exact hb.1.trans' (by decide)
  · exact write_le_write (ha.1.trans' (by decide)) hb.2

end Timestamp

/-! ### Tables in the order of their keys -/

theorem Row.leAt_descriptors_eq {a b : DescriptorRecord}
    (ha : Timestamp.Plain a.validity.start) (hb : Timestamp.Plain b.validity.start) :
    leAt [0, 10] (Record.descriptor a).stored (Record.descriptor b).stored =
      decide ((StoredDescriptor.ofRecord a).key ≤ (StoredDescriptor.ofRecord b).key) := by
  rw [Bool.eq_iff_iff, decide_eq_true_eq, StoredDescriptor.key, StoredDescriptor.key,
    Prod.Lex.toLex_le_toLex, leAt_descriptors, Timestamp.write_le_write_iff ha hb]
  rfl

theorem Row.leAt_families_eq {a b : FamilyEdge} (ha : Timestamp.Plain a.time.start)
    (hb : Timestamp.Plain b.time.start) :
    leAt [0, 1, 2] (Record.family a).stored (Record.family b).stored =
      decide (a.key ≤ b.key) := by
  rw [Bool.eq_iff_iff, decide_eq_true_eq, FamilyEdge.key, FamilyEdge.key,
    Prod.Lex.toLex_le_toLex, Prod.Lex.toLex_le_toLex, leAt_families,
    Timestamp.write_le_write_iff ha hb]

namespace Medium

variable {medium : Medium} {records : List Record}

theorem exists_descriptors (hrows : medium.rows .descriptors =
      .ok ((RecordKind.descriptors.among records).map Record.stored)) :
    ∃ found, medium.descriptors = .ok found ∧
      found.Perm ((records.filterMap Record.descriptor?).map .ofRecord) ∧
      ((∀ r ∈ records.filterMap Record.descriptor?, Timestamp.Plain r.validity.start) →
        SortedBy StoredDescriptor.key
          ((records.filterMap Record.descriptor?).map .ofRecord) found) := by
  refine ⟨_, descriptors_eq_mergeSort hrows, (List.mergeSort_perm _ _).map _, fun hplain => ?_⟩
  apply sortedBy_map_mergeSort
  intro a ha b hb
  exact Row.leAt_descriptors_eq (hplain a ha) (hplain b hb)

theorem exists_families (hrows : medium.rows .families =
      .ok ((RecordKind.families.among records).map Record.stored)) :
    ∃ found, medium.families = .ok found ∧ found.Perm (records.filterMap Record.family?) ∧
      ((∀ e ∈ records.filterMap Record.family?, Timestamp.Plain e.time.start) →
        SortedBy FamilyEdge.key (records.filterMap Record.family?) found) := by
  refine ⟨_, families_eq_mergeSort hrows, List.mergeSort_perm _ _, fun hplain => ?_⟩
  have hsorted : SortedBy FamilyEdge.key ((records.filterMap Record.family?).map id) _ :=
    sortedBy_map_mergeSort fun a ha b hb => Row.leAt_families_eq (hplain a ha) (hplain b hb)
  rwa [List.map_id, List.map_id] at hsorted

theorem exists_nodes (hrows : medium.rows .nodes =
      .ok ((RecordKind.nodes.among records).map Record.stored))
    (hids : ((records.filterMap Record.node?).map NodeRecord.id).Nodup) :
    ∃ found, medium.nodes = .ok found ∧ found.Perm (records.filterMap Record.node?) ∧
      found.Pairwise fun a b => a.id < b.id := by
  have hperm := List.mergeSort_perm (records.filterMap Record.node?)
    fun a b => decide (a.id ≤ b.id)
  refine ⟨_, nodes_eq hrows, hperm, ?_⟩
  have hordered := (sortedBy_mergeSort NodeRecord.id (records.filterMap Record.node?)).ordered
  -- No two nodes have one number, so the order is strict.
  have hdistinct := List.pairwise_map.mp ((hperm.map NodeRecord.id).nodup_iff.mpr hids)
  exact (hordered.and hdistinct).imp fun ⟨hle, hne⟩ => lt_of_le_of_ne hle hne

end Medium

end RelaySnapshot
