import Mathlib.Data.List.Nodup
import RelaySnapshot.Store.Database

namespace RelaySnapshot

namespace Cell

theorem ofWhole_ne_null (x : Double) : ofWhole x ≠ .null := by
  unfold ofWhole
  split
  · split <;> simp
  · simp

theorem ofNumeral?_ne_null (s : Text) : ofNumeral? s ≠ some .null := by
  unfold ofNumeral?
  dsimp only
  repeat' split
  all_goals first
    | exact fun h => ofWhole_ne_null _ (Option.some.inj h)
    | simp

theorem prefer_number_text_ne_null (s : String) : prefer .number (.text s) ≠ .null := by
  rw [prefer]
  cases h : ofNumeral? s.toList with
  | none => simp
  | some cell =>
      rintro rfl
      exact ofNumeral?_ne_null _ h

@[simp]
theorem prefer_text_text (s : String) : prefer .text (.text s) = .text s := rfl

@[simp]
theorem prefer_number_integer (i : Int) : prefer .number (.integer i) = .integer i := rfl

end Cell

/-- The records of a kind, in their order. -/
def RecordKind.among (kind : RecordKind) (records : List Record) : List Record :=
  records.filter fun record => record.kind = kind

namespace RecordKind

variable {kind : RecordKind} {record : Record} {records : List Record}

@[simp]
theorem among_nil (kind : RecordKind) : kind.among [] = [] := rfl

@[simp]
theorem among_append (kind : RecordKind) (before after : List Record) :
    kind.among (before ++ after) = kind.among before ++ kind.among after := by
  simp [among]

theorem among_cons_of_eq (hkind : record.kind = kind) (records : List Record) :
    kind.among (record :: records) = record :: kind.among records := by
  simp [among, hkind]

theorem among_cons_of_ne (hkind : record.kind ≠ kind) (records : List Record) :
    kind.among (record :: records) = kind.among records := by
  simp [among, hkind]

theorem mem_among : record ∈ kind.among records ↔ record ∈ records ∧ record.kind = kind := by
  simp [among]

end RecordKind

/-- The row that a record becomes. -/
def Record.stored (record : Record) : Row :=
  List.zipWith (fun column cell => Cell.prefer column.affinity cell) record.kind.columns
    record.values

namespace Database

/-- A record has every value that its table requires. -/
theorem checkRequired_stored (record : Record) :
    checkRequired record.kind record.stored = .ok () := by
  cases record with
  | descriptor r =>
      have htime : ∀ t, Cell.prefer .number (storedInstant t) ≠ .null :=
        fun t => Cell.prefer_number_text_ne_null _
      simp [checkRequired, Record.stored, Record.kind, RecordKind.columns, Record.values, htime]
  | _ => rfl

def newIds (records : List Record) : List Cell :=
  ((RecordKind.nodes.among records).map Record.stored).filterMap List.head?

theorem newIds_node (node : NodeRecord) : newIds [.node node] = [.integer node.id] := rfl

theorem newIds_of_ne {record : Record} (hkind : record.kind ≠ .nodes) : newIds [record] = [] := by
  rw [newIds, RecordKind.among_cons_of_ne hkind]
  rfl

theorem newIds_cons (record : Record) (records : List Record) :
    newIds (record :: records) = newIds [record] ++ newIds records := by
  rw [← List.singleton_append, newIds, RecordKind.among_append, List.map_append,
    List.filterMap_append]
  rfl

theorem nodup_newIds_singleton (record : Record) : (newIds [record]).Nodup := by
  by_cases hkind : record.kind = .nodes
  · cases record with
    | node node => simp [newIds_node]
    | _ => cases hkind
  · simp [newIds_of_ne hkind]

/-- The new nodes have numbers that differ from one another and from those that are there. -/
def Accepts (db : Database) (records : List Record) : Prop :=
  (newIds records).Nodup ∧ ∀ id ∈ newIds records, id ∉ db.nodeIds

theorem accepts_singleton {db : Database} {record : Record} :
    db.Accepts [record] ↔ ∀ id ∈ newIds [record], id ∉ db.nodeIds :=
  and_iff_right (nodup_newIds_singleton record)

/-! ### One record -/

theorem insert_node (db : Database) (node : NodeRecord) :
    db.insert .nodes (Record.node node).values =
      if .integer node.id ∈ db.nodeIds then .error .repeatedNode
      else .ok (db.append .nodes (Record.node node).stored) := by
  unfold insert
  change (if _ then _ else _ : Except DatabaseError Database) = _
  split <;> rfl

theorem insert_of_ne (db : Database) {record : Record} (hkind : record.kind ≠ .nodes) :
    db.insert record.kind record.values = .ok (db.append record.kind record.stored) := by
  unfold insert
  change (checkRequired record.kind record.stored >>= fun _ => _) = _
  rw [checkRequired_stored]
  cases record with
  | node r => exact absurd rfl hkind
  | descriptor r => rfl
  | family e => rfl
  | address r => rfl

theorem insert_eq_ok_iff {db db' : Database} {record : Record} :
    db.insert record.kind record.values = .ok db' ↔
      db.Accepts [record] ∧ db' = db.append record.kind record.stored := by
  rw [accepts_singleton]
  by_cases hkind : record.kind = .nodes
  · cases record with
    | node node =>
        change db.insert .nodes (Record.node node).values = .ok db' ↔ _
        rw [insert_node, newIds_node]
        split <;> simp_all [Record.kind, eq_comm]
    | _ => cases hkind
  · rw [insert_of_ne db hkind, newIds_of_ne hkind]
    simp [eq_comm]

/-! ### Many records -/

/-- The database with records at the end of their tables. -/
def gain (db : Database) (records : List Record) : Database :=
  ⟨fun kind => db.rows kind ++ (kind.among records).map Record.stored⟩

@[simp]
theorem gain_nil (db : Database) : db.gain [] = db := by
  simp [gain]

theorem append_eq_gain (db : Database) (record : Record) :
    db.append record.kind record.stored = db.gain [record] := by
  rw [gain, append]
  congr 1
  funext kind
  by_cases hkind : record.kind = kind
  · rw [if_pos hkind.symm, RecordKind.among_cons_of_eq hkind]
    rfl
  · rw [if_neg (Ne.symm hkind), RecordKind.among_cons_of_ne hkind]
    simp

theorem gain_cons (db : Database) (record : Record) (records : List Record) :
    db.gain (record :: records) = (db.gain [record]).gain records := by
  rw [gain, gain, gain]
  congr 1
  funext kind
  rw [← List.singleton_append, RecordKind.among_append, List.map_append, List.append_assoc]

theorem nodeIds_gain (db : Database) (records : List Record) :
    (db.gain records).nodeIds = db.nodeIds ++ newIds records := by
  rw [nodeIds, gain, List.filterMap_append]
  rfl

theorem accepts_cons {db : Database} {record : Record} {records : List Record} :
    db.Accepts (record :: records) ↔
      db.Accepts [record] ∧ (db.gain [record]).Accepts records := by
  rw [accepts_singleton, Accepts, Accepts, newIds_cons, nodeIds_gain, List.nodup_append,
    and_iff_right (nodup_newIds_singleton record)]
  constructor
  · rintro ⟨⟨hnodup, hne⟩, hfresh⟩
    refine ⟨fun id hid => hfresh id (List.mem_append_left _ hid), hnodup, fun id hid hmem => ?_⟩
    rcases List.mem_append.mp hmem with hold | hnew
    · exact hfresh id (List.mem_append_right _ hid) hold
    · exact hne id hnew id hid rfl
  · rintro ⟨hfirst, hnodup, hrest⟩
    refine ⟨⟨hnodup, fun id hid other hother heq => ?_⟩, fun id hid hold => ?_⟩
    · exact hrest other hother (List.mem_append_right _ (heq ▸ hid))
    · rcases List.mem_append.mp hid with hid | hid
      · exact hfirst id hid hold
      · exact hrest id hid (List.mem_append_left _ hold)

theorem gain_congr {db : Database} {records records' : List Record}
    (hamong : ∀ kind : RecordKind, kind.among records = kind.among records') :
    db.gain records = db.gain records' := by
  simp [gain, hamong]

end Database

namespace Medium

def insertAll (medium : Medium) : List Record → Except DatabaseError Medium
  | [] => .ok medium
  | record :: rest => do
    let medium ← medium.insert record.kind record.values
    medium.insertAll rest

theorem insertAll_append (medium : Medium) (before after : List Record) :
    medium.insertAll (before ++ after) =
      (medium.insertAll before >>= fun medium => medium.insertAll after) := by
  induction before generalizing medium with
  | nil => rfl
  | cons record before ih =>
      rw [List.cons_append, insertAll, insertAll]
      cases medium.insert record.kind record.values with
      | error e => rfl
      | ok medium => exact ih medium

theorem insertAll_tables {db : Database} {records : List Record} {medium : Medium} :
    (Medium.tables db).insertAll records = .ok medium ↔
      db.Accepts records ∧ medium = .tables (db.gain records) := by
  induction records generalizing db with
  | nil => simp [insertAll, Database.Accepts, Database.newIds, eq_comm]
  | cons record records ih =>
      rw [insertAll, insert, Database.accepts_cons, Database.gain_cons db record records]
      cases hinsert : db.insert record.kind record.values with
      | error e =>
          have hrefused : ¬ db.Accepts [record] := fun haccepts => by
            rw [Database.insert_eq_ok_iff.mpr ⟨haccepts, rfl⟩] at hinsert
            cases hinsert
          constructor
          · intro h
            cases h
          · exact fun h => absurd h.1.1 hrefused
      | ok db' =>
          obtain ⟨haccepts, rfl⟩ := Database.insert_eq_ok_iff.mp hinsert
          rw [and_assoc, and_iff_right haccepts, ← Database.append_eq_gain, ← ih]
          rfl

/-- Without tables nothing can be inserted. -/
theorem eq_nil_of_insertAll {medium medium' : Medium} {records : List Record}
    (htables : ∀ db, medium ≠ .tables db) (h : medium.insertAll records = .ok medium') :
    records = [] ∧ medium' = medium := by
  cases records with
  | nil => exact ⟨rfl, (Except.ok.inj h).symm⟩
  | cons record records =>
      cases medium with
      | blank => cases h
      | tables db => exact absurd rfl (htables db)
      | readOnly db =>
          rw [insertAll, insert] at h
          cases hinsert : db.insert record.kind record.values with
          | error e =>
              rw [hinsert] at h
              cases h
          | ok _ =>
              rw [hinsert] at h
              cases h
      | foreign => cases h

/-- Records can be inserted if they are the first of their kinds among others that can be. -/
theorem exists_insertAll_of_prefixes {medium medium' : Medium} {records records' : List Record}
    (hprefixes : ∀ kind : RecordKind, kind.among records <+: kind.among records')
    (h : medium.insertAll records' = .ok medium') :
    ∃ written, medium.insertAll records = .ok written := by
  have hnil (hrecords : records' = []) : records = [] := by
    subst hrecords
    exact List.eq_nil_iff_forall_not_mem.mpr fun record hmem =>
      absurd ((hprefixes record.kind).subset (RecordKind.mem_among.mpr ⟨hmem, rfl⟩))
        List.not_mem_nil
  cases medium with
  | tables db =>
      obtain ⟨⟨hnodup, hfresh⟩, -⟩ := insertAll_tables.mp h
      have hids : Database.newIds records <+: Database.newIds records' :=
        ((hprefixes .nodes).map _).filterMap _
      exact ⟨_, insertAll_tables.mpr
        ⟨⟨hids.sublist.nodup hnodup, fun id hid => hfresh id (hids.subset hid)⟩, rfl⟩⟩
  | blank =>
      obtain ⟨hrecords, rfl⟩ := eq_nil_of_insertAll (by simp) h
      exact ⟨_, by rw [hnil hrecords, insertAll]⟩
  | readOnly db =>
      obtain ⟨hrecords, rfl⟩ := eq_nil_of_insertAll (by simp) h
      exact ⟨_, by rw [hnil hrecords, insertAll]⟩
  | foreign =>
      obtain ⟨hrecords, rfl⟩ := eq_nil_of_insertAll (by simp) h
      exact ⟨_, by rw [hnil hrecords, insertAll]⟩

/-- How the kinds of the records are mixed makes no difference. -/
theorem insertAll_congr {medium medium' : Medium} {records records' : List Record}
    (hamong : ∀ kind : RecordKind, kind.among records = kind.among records')
    (h : medium.insertAll records = .ok medium') : medium.insertAll records' = .ok medium' := by
  have hprefixes (kind : RecordKind) : kind.among records' <+: kind.among records := by
    simp [hamong kind]
  obtain ⟨written, hwritten⟩ := exists_insertAll_of_prefixes hprefixes h
  rw [hwritten]
  cases medium with
  | tables db =>
      obtain ⟨-, rfl⟩ := insertAll_tables.mp h
      obtain ⟨-, rfl⟩ := insertAll_tables.mp hwritten
      rw [Database.gain_congr hamong]
  | blank =>
      obtain ⟨-, rfl⟩ := eq_nil_of_insertAll (by simp) h
      obtain ⟨-, rfl⟩ := eq_nil_of_insertAll (by simp) hwritten
      rfl
  | readOnly db =>
      obtain ⟨-, rfl⟩ := eq_nil_of_insertAll (by simp) h
      obtain ⟨-, rfl⟩ := eq_nil_of_insertAll (by simp) hwritten
      rfl
  | foreign =>
      obtain ⟨-, rfl⟩ := eq_nil_of_insertAll (by simp) h
      obtain ⟨-, rfl⟩ := eq_nil_of_insertAll (by simp) hwritten
      rfl

end Medium

end RelaySnapshot
