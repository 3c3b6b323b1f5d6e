import RelaySnapshot.Proofs.Store.Order
import RelaySnapshot.Proofs.Text.ByteOrder

namespace RelaySnapshot

namespace Timestamp

/-- The bytes of the text of an instant. -/
def bytes (t : Instant) : List UInt8 :=
  Utf8.encode (write t)

theorem bytes_lt_bytes_iff {a b : Instant} (ha : Plain a) (hb : Plain b) :
    bytes a < bytes b ↔ a < b := by
  rw [bytes, bytes, Utf8.encode_lt_encode_iff, ← not_le, write_le_write_iff hb ha]
  exact Int.not_le

end Timestamp

namespace Medium

/-- The rows of a store are those of some records. -/
def Holds (medium : Medium) (records : List Record) : Prop :=
  ∀ kind : RecordKind, medium.rows kind = .ok ((kind.among records).map Record.stored)

/-- What is sorted by the texts of times comes back in the order of time. -/
structure Chronological (medium : Medium) (records : List Record) : Prop where
  descriptors : (∀ r ∈ records.filterMap Record.descriptor?, Timestamp.Plain r.validity.start) →
    ∃ found, medium.descriptors = .ok found ∧
      found.Perm ((records.filterMap Record.descriptor?).map .ofRecord) ∧
      found.Pairwise fun a b =>
        a.node < b.node ∨ a.node = b.node ∧ a.validity.start ≤ b.validity.start
  families : (∀ e ∈ records.filterMap Record.family?, Timestamp.Plain e.time.start) →
    ∃ found, medium.families = .ok found ∧ found.Perm (records.filterMap Record.family?) ∧
      found.Pairwise fun a b =>
        a.first < b.first ∨ a.first = b.first ∧
          (a.second < b.second ∨ a.second = b.second ∧ a.time.start ≤ b.time.start)

variable {medium : Medium} {records : List Record}

theorem Holds.chronological (h : medium.Holds records) : medium.Chronological records where
  descriptors hplain := by
    obtain ⟨found, hfound, hperm, hsorted⟩ := exists_descriptors (h .descriptors)
    refine ⟨found, hfound, hperm, (hsorted hplain).ordered.imp fun {a b} hle => ?_⟩
    rw [StoredDescriptor.key, StoredDescriptor.key, Prod.Lex.toLex_le_toLex] at hle
    exact hle
  families hplain := by
    obtain ⟨found, hfound, hperm, hsorted⟩ := exists_families (h .families)
    refine ⟨found, hfound, hperm, (hsorted hplain).ordered.imp fun {a b} hle => ?_⟩
    rw [FamilyEdge.key, FamilyEdge.key, Prod.Lex.toLex_le_toLex, Prod.Lex.toLex_le_toLex] at hle
    exact hle

/-- An instant is stored as a text that is read back as that instant; the bytes of the texts are in
the order of time in the years from 0 to 9999, and so are the rows that are sorted by them. -/
theorem times_as_texts :
    (∀ t : Instant, ∃ text : String, text.toList = Timestamp.write t ∧
      Cell.prefer .number (storedInstant t) = .text text ∧ readInstant text = .ok t) ∧
    (∀ a b : Instant, Timestamp.Plain a → Timestamp.Plain b →
      (Timestamp.bytes a < Timestamp.bytes b ↔ a < b)) ∧
    ∀ (medium : Medium) (records : List Record),
      medium.Holds records → medium.Chronological records :=
  ⟨fun t => ⟨_, String.toList_ofList, Cell.prefer_storedInstant t, readInstant_write t⟩,
    fun _ _ => Timestamp.bytes_lt_bytes_iff, fun _ _ => Holds.chronological⟩

/-- The leap second at the end of a year comes between the last other second and the next year. -/
theorem times_as_texts_leap :
    let day : Date := ⟨2016, 12, 31, by decide, by decide, by decide⟩
    let last : Instant := ⟨day, 86399, false, by decide, by decide⟩
    let leap : Instant := ⟨day, 86399, true, by decide, by decide⟩
    let year : Instant := .midnight ⟨2017, 1, 1, by decide, by decide, by decide⟩
    Timestamp.bytes last < Timestamp.bytes leap ∧ Timestamp.bytes leap < Timestamp.bytes year ∧
      readInstant "2016-12-31 23:59:60" = .ok leap := by
  intro day last leap year
  have hplain (t : Instant) (h : 0 ≤ t.date.year ∧ t.date.year ≤ 9999) : Timestamp.Plain t := h
  obtain ⟨text, htext, -, hread⟩ := times_as_texts.1 leap
  have hword : text = "2016-12-31 23:59:60" := by
    rw [← String.toList_inj, htext]
    decide +kernel
  refine ⟨?_, ?_, hword ▸ hread⟩
  · exact (times_as_texts.2.1 last leap (hplain _ (by decide)) (hplain _ (by decide))).mpr
      (by decide)
  · exact (times_as_texts.2.1 leap year (hplain _ (by decide)) (hplain _ (by decide))).mpr
      (by decide)

end Medium

end RelaySnapshot
