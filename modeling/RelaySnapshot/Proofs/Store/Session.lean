import RelaySnapshot.Proofs.Store.Insertion
import RelaySnapshot.Store.Session

namespace RelaySnapshot

/-- How many records there are of each kind. -/
def RowCounts.of (records : List Record) : RowCounts where
  nodes := (RecordKind.nodes.among records).length
  descriptors := (RecordKind.descriptors.among records).length
  families := (RecordKind.families.among records).length
  addresses := (RecordKind.addresses.among records).length

theorem RowCounts.of_append_singleton (records : List Record) (record : Record) :
    of (records ++ [record]) = (of records).increment record.kind := by
  cases record <;> simp [of, increment, Record.kind, RecordKind.among]

theorem RowCounts.of_congr {records records' : List Record}
    (hamong : ∀ kind : RecordKind, kind.among records = kind.among records') :
    of records = of records' := by
  simp [of, hamong]

/-- Inserting and counting records leads from a store to what is written. -/
structure Wrote (medium : Medium) (records : List Record) (written : Medium)
    (counts : RowCounts) : Prop where
  inserted : medium.insertAll records = .ok written
  counted : counts = .of records

namespace Wrote

variable {medium written : Medium} {records : List Record} {counts : RowCounts}

theorem nothing (medium : Medium) : Wrote medium [] medium {} := ⟨rfl, rfl⟩

theorem more (h : Wrote medium records written counts) {record : Record} {written' : Medium}
    (hinsert : written.insert record.kind record.values = .ok written') :
    Wrote medium (records ++ [record]) written' (counts.increment record.kind) where
  inserted := by
    rw [Medium.insertAll_append, h.inserted]
    change (written.insert record.kind record.values >>= fun medium => medium.insertAll []) = _
    rw [hinsert]
    rfl
  counted := by rw [RowCounts.of_append_singleton, h.counted]

theorem congr (h : Wrote medium records written counts) {records' : List Record}
    (hamong : ∀ kind : RecordKind, kind.among records = kind.among records') :
    Wrote medium records' written counts where
  inserted := Medium.insertAll_congr hamong h.inserted
  counted := by rw [h.counted, RowCounts.of_congr hamong]

end Wrote

namespace Session

variable {session session' : Session} {record : Record} {records : List Record} {medium : Medium}

theorem take_of_mem (hopen : record.kind ∈ session.openQueues)
    (h : session.take record = .ok session') :
    ∃ written, session.written.insert record.kind record.values = .ok written ∧
      session' = { session with written, counts := session.counts.increment record.kind } := by
  rw [take, if_pos hopen] at h
  split at h
  next written hinsert => exact ⟨written, hinsert, (Except.ok.inj h).symm⟩
  next => cases h

/-- With all its queues open, a session takes every record, as far as they can be inserted. -/
theorem follow_records {taken : List Record} (hopen : ∀ kind, kind ∈ session.openQueues)
    (hwrote : Wrote medium taken session.written session.counts) :
    session.follow (records.map .record) =
      match medium.insertAll (taken ++ records) with
      | .ok written => .ok { session with written, counts := .of (taken ++ records) }
      | .error e => .error (.database e) := by
  induction records generalizing session taken with
  | nil =>
      rw [List.append_nil, hwrote.inserted, ← hwrote.counted]
      rfl
  | cons record records ih =>
      have hnonempty : session.openQueues.isEmpty = false :=
        List.isEmpty_eq_false_iff_exists_mem.mpr ⟨_, hopen record.kind⟩
      rw [List.map_cons, follow, hnonempty, step, take, if_pos (hopen _)]
      cases hinsert : session.written.insert record.kind record.values with
      | error e =>
          rw [Medium.insertAll_append, hwrote.inserted]
          change _ = match (session.written.insert record.kind record.values >>=
            fun medium => medium.insertAll records : Except DatabaseError Medium) with
            | .ok written => _
            | .error e => _
          rw [hinsert]
          rfl
      | ok next =>
          rw [List.append_cons]
          exact ih hopen (hwrote.more hinsert)

/-- A session of records alone keeps all of them if each can be inserted, and otherwise none. -/
theorem run_records (medium : Medium) (records : List Record) :
    run medium (records.map .record) =
      match medium.insertAll records with
      | .ok written => (.ok (.of records), written)
      | .error e => (.error (.database e), medium) := by
  have hopen (kind : RecordKind) :
      kind ∈ ({ written := medium } : Session).openQueues := by
    cases kind <;> simp
  rw [run, follow_records hopen (.nothing medium), List.nil_append]
  cases medium.insertAll records with
  | ok written => rfl
  | error e => rfl

end Session

end RelaySnapshot
