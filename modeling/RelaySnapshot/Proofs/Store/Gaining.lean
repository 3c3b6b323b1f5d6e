import RelaySnapshot.Proofs.Store.Order

/-!
# What tables gain

Where records have been inserted, each table has their rows behind those that it had before. What is
in a row is what is read of it, which is a record as far as a store keeps it.
-/

namespace RelaySnapshot

/-- Tables with nothing in them but one row. -/
def Medium.single (kind : RecordKind) (row : Row) : Medium :=
  .tables (Database.empty.append kind row)

/-- The row by itself is read as the record. -/
def Row.Holds (row : Row) : Record → Prop
  | .node r => (Medium.single .nodes row).nodes = .ok [r]
  | .descriptor r => (Medium.single .descriptors row).descriptors = .ok [.ofRecord r]
  | .family e => (Medium.single .families row).families = .ok [e]
  | .address r => (Medium.single .addresses row).addresses = .ok [r.kept]

theorem Row.holds_stored (record : Record) : Row.Holds record.stored record := by
  have hrows : (Medium.single record.kind record.stored).rows record.kind =
      .ok ((record.kind.among [record]).map Record.stored) := by
    simp [Medium.single, Medium.rows, Database.append, Database.empty, RecordKind.among]
  cases record with
  | node r =>
      change (Medium.single .nodes _).nodes = .ok [r]
      rw [← List.mergeSort_singleton r]
      exact Medium.nodes_eq hrows
  | descriptor r => exact Medium.descriptors_eq hrows (List.pairwise_singleton _ _)
  | family e =>
      obtain ⟨edges, hedges, hperm⟩ := Medium.families_eq hrows
      exact hedges.trans (congrArg Except.ok (List.perm_singleton.mp hperm))
  | address r =>
      obtain ⟨found, hfound, hperm⟩ := Medium.addresses_eq_kept hrows
      exact hfound.trans (congrArg Except.ok (List.perm_singleton.mp hperm))

namespace Medium

/-- Each table has gained a row for each record of its kind, in their order, and nothing else. -/
def Gained (medium : Medium) (records : List Record) (written : Medium) : Prop :=
  ∀ kind : RecordKind,
    match medium.rows kind with
    | .ok rows => ∃ gained, written.rows kind = .ok (rows ++ gained) ∧
        List.Forall₂ Row.Holds gained (kind.among records)
    | .error e => written.rows kind = .error e ∧ kind.among records = []

theorem gained_of_insertAll {medium written : Medium} {records : List Record}
    (h : medium.insertAll records = .ok written) : medium.Gained records written := by
  intro kind
  cases medium with
  | tables db =>
      obtain ⟨-, rfl⟩ := insertAll_tables.mp h
      refine ⟨_, rfl, ?_⟩
      rw [List.forall₂_map_left_iff, List.forall₂_same]
      exact fun record _ => Row.holds_stored record
  | readOnly db =>
      obtain ⟨rfl, rfl⟩ := eq_nil_of_insertAll (by simp) h
      exact ⟨[], by rw [List.append_nil]; rfl, .nil⟩
  | blank =>
      obtain ⟨rfl, rfl⟩ := eq_nil_of_insertAll (by simp) h
      exact ⟨rfl, rfl⟩
  | foreign =>
      obtain ⟨rfl, rfl⟩ := eq_nil_of_insertAll (by simp) h
      exact ⟨rfl, rfl⟩

end Medium

def Record.nodeIds (records : List Record) : List NodeId :=
  (records.filterMap Record.node?).map NodeRecord.id

/-- All tables can be read, and each holds the records of its kind as far as a store keeps them. -/
structure ReadsBack (records : List Record) (medium : Medium) : Prop where
  nodes : ∃ found, medium.nodes = .ok found ∧ found.Perm (records.filterMap Record.node?) ∧
    found.Pairwise fun a b => a.id < b.id
  descriptors : ∃ found, medium.descriptors = .ok found ∧
    found.Perm ((records.filterMap Record.descriptor?).map .ofRecord) ∧
    ((∀ r ∈ records.filterMap Record.descriptor?, Timestamp.Plain r.validity.start) →
      SortedBy StoredDescriptor.key ((records.filterMap Record.descriptor?).map .ofRecord) found)
  families : ∃ found, medium.families = .ok found ∧
    found.Perm (records.filterMap Record.family?) ∧
    ((∀ e ∈ records.filterMap Record.family?, Timestamp.Plain e.time.start) →
      SortedBy FamilyEdge.key (records.filterMap Record.family?) found)
  addresses : ∃ found, medium.addresses = .ok found ∧
    found.Perm ((records.filterMap Record.address?).map AddressRecord.kept)

theorem readsBack_gain {records : List Record} (hids : (Record.nodeIds records).Nodup) :
    ReadsBack records (.tables (Database.empty.gain records)) := by
  have hrows (kind : RecordKind) : (Medium.tables (Database.empty.gain records)).rows kind =
      .ok ((kind.among records).map Record.stored) := by
    simp [Medium.rows, Database.gain, Database.empty]
  exact {
    nodes := Medium.exists_nodes (hrows .nodes) hids
    descriptors := Medium.exists_descriptors (hrows .descriptors)
    families := Medium.exists_families (hrows .families)
    addresses := Medium.addresses_eq_kept (hrows .addresses) }

end RelaySnapshot
