import RelaySnapshot.Proofs.Build.Snapshot

namespace RelaySnapshot

namespace Build

/-- A new store holds some records after they have been sent to it in one session. -/
structure Committed (records : List Record) (medium : Medium) : Prop where
  session : Session.run (.tables .empty) (records.map .record) = (.ok (.of records), medium)
  /-- It does not matter when records are sent and received, and when queues are shut. -/
  turn : ∀ (entry : Entry) (medium' : Medium), entry.Leads (.tables .empty) medium' →
    .fire ∉ entry.events →
    (∀ kind : RecordKind, kind.among (Event.sent entry.events) = kind.among records) →
      entry.result = .ok (.of records) ∧ medium' = medium
  /-- The records can be received in the order in which they stand, whatever room queues have. -/
  attained : ∀ capacity, ∃ entry : Entry, entry.capacity = capacity ∧
    Event.received entry.events = records ∧ entry.result = .ok (.of records) ∧
    entry.Leads (.tables .empty) medium

theorem reads_back {records : List Record} (hids : (Record.nodeIds records).Nodup) :
    ∃ medium, Committed records medium ∧ ReadsBack records medium := by
  have haccepts : Database.empty.Accepts records := by
    rw [← Database.gain_nil .empty, Database.accepts_gain_empty]
    exact ⟨hids, by simp [Record.nodeIds]⟩
  have hinserted : (Medium.tables .empty).insertAll records =
      .ok (.tables (Database.empty.gain records)) := Medium.insertAll_tables.mpr ⟨haccepts, rfl⟩
  have hwrote : Wrote (.tables .empty) (⟨records, none⟩ : Production).records _ (.of records) :=
    ⟨hinserted, rfl⟩
  refine ⟨_, {
    session := session_of_wrote hwrote fun kind => rfl
    turn := fun entry medium' => leads_of_wrote hwrote
    attained := fun capacity => ?_ }, readsBack_gain hids⟩
  exact Entry.exists_leads capacity _ records hinserted

/-- The case of two nodes, of a year that has a sign, and of coordinates that are not kept. -/
theorem reads_back_signed_year :
    let early : Instant := .midnight ⟨-44, 3, 15, by decide, by decide, by decide⟩
    let late : Instant := ⟨⟨2016, 12, 31, by decide, by decide, by decide⟩, 86399, true,
      by decide, by decide⟩
    let relay : Descriptor := { Descriptor.bare ⟨1, by decide⟩ late .empty with
      nickname := "naïve\nname", bandwidth := ⟨0, 1, UInt64.ofNat (Nat.pow 2 64 - 1)⟩ }
    let records : List Record := [
      .node ⟨2, ⟨2, by decide⟩⟩,
      .node ⟨1, ⟨1, by decide⟩⟩,
      .descriptor ⟨1, relay, early, late⟩,
      .family ⟨1, 2, early, late⟩,
      .address ⟨.v4 0, 64496, "EXAMPLE",
        { latitude := some .notANumber, longitude := some ⟨0x8000000000000000⟩ }⟩]
    (Record.nodeIds records).Nodup ∧
      ∃ medium, Committed records medium ∧ ReadsBack records medium := by
  intro early late relay records
  have hids : (Record.nodeIds records).Nodup := by decide
  exact ⟨hids, reads_back hids⟩

end Build

end RelaySnapshot
