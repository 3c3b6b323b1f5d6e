import RelaySnapshot.Proofs.Address.Text
import RelaySnapshot.Proofs.Calendar.Timestamp
import RelaySnapshot.Proofs.Fingerprint.Text
import RelaySnapshot.Proofs.Store.Insertion
import RelaySnapshot.Store.Reading

namespace RelaySnapshot

/-- What a store keeps of a descriptor. -/
def StoredDescriptor.ofRecord (record : DescriptorRecord) : StoredDescriptor where
  node := record.node
  nickname := record.descriptor.nickname
  address := record.descriptor.address.text
  average := min record.descriptor.bandwidth.average.toNat (Nat.pow 2 63 - 1)
  burst := min record.descriptor.bandwidth.burst.toNat (Nat.pow 2 63 - 1)
  observed := min record.descriptor.bandwidth.observed.toNat (Nat.pow 2 63 - 1)
  platform := record.descriptor.platform
  version := record.descriptor.version
  hibernating := record.descriptor.hibernating
  exitPolicy := record.descriptor.exitPolicy.lines
  validity := record.validity

/-- A number that a store keeps as it is: it is one, and it is not the negative zero. -/
structure Double.Plain (x : Double) : Prop where
  number : x.isNaN = false
  sign : x.isZero = true → x.isNegative = false

/-- The coordinates are kept as they are, as far as they are known. -/
structure Location.Plain (location : Location) : Prop where
  latitude : ∀ x ∈ location.latitude, x.Plain
  longitude : ∀ x ∈ location.longitude, x.Plain

/-! ### Cells -/

namespace Cell

theorem prefer_storedInstant (t : Instant) :
    prefer .number (storedInstant t) = .text (String.ofList (Timestamp.write t)) := by
  rw [storedInstant, prefer, String.toList_ofList, Timestamp.ofNumeral?_write]
  rfl

/-- Whole numbers are scaled by one unit, however large it is. -/
theorem exists_unit : ∃ unit : Nat, 0 < unit ∧ ∀ i, scaled? (.integer i) = some (i * unit) := by
  refine ⟨_, ?_, fun i => scaled?.eq_1 i⟩
  decide +kernel

theorem le_integer (i j : Int) : (Cell.integer i).le (.integer j) = decide (i ≤ j) := by
  obtain ⟨unit, hunit, hscaled⟩ := exists_unit
  have hpos : (0 : Int) < unit := Int.natCast_pos.mpr hunit
  simp only [le, hscaled, Option.getD_some]
  exact decide_eq_decide.mpr ⟨fun h => le_of_mul_le_mul_right h hpos,
    fun h => Int.mul_le_mul_of_nonneg_right h hpos.le⟩

end Cell

/-- A number as a store keeps it: what is none is lost, and a zero loses its sign. -/
def Double.kept (x : Double) : Option Double :=
  if x.isNaN then none else some (if x.isZero then .zero else x)

def Location.kept (location : Location) : Location where
  country := location.country
  latitude := location.latitude.bind Double.kept
  longitude := location.longitude.bind Double.kept

def AddressRecord.kept (record : AddressRecord) : AddressRecord :=
  { record with location := record.location.kept }

theorem Cell.prefer_ofDouble (x : Double) :
    prefer .real (ofDouble x) = x.kept.elim .null .real := by
  rw [ofDouble, Double.kept]
  split <;> rfl

theorem Double.Plain.kept_eq {x : Double} (h : x.Plain) : x.kept = some x := by
  rw [Double.kept, if_neg (by simp [h.number])]
  split
  next hzero =>
    have hsign := h.sign hzero
    obtain ⟨bits⟩ := x
    simp only [Double.isZero, Double.isNegative, beq_iff_eq, decide_eq_false_iff_not,
      not_le] at hzero hsign
    have hnil : bits = 0 := by
      refine UInt64.toNat_inj.mp ?_
      rw [Nat.mod_eq_of_lt hsign] at hzero
      simpa using hzero
    rw [hnil]
    rfl
  next => rfl

theorem Location.Plain.kept_eq {location : Location} (h : location.Plain) :
    location.kept = location := by
  have hcoordinate {x : Option Double} (hx : ∀ y ∈ x, y.Plain) : x.bind Double.kept = x := by
    cases x with
    | none => rfl
    | some y => exact (hx y rfl).kept_eq
  rw [kept, hcoordinate h.latitude, hcoordinate h.longitude]

/-! ### Rows -/

namespace Row

theorem leAt_cons (key : Nat) (keys : List Nat) (a b : Row) :
    leAt (key :: keys) a b =
      ((cell a key).le (cell b key) && (!(cell b key).le (cell a key) || leAt keys a b)) := by
  rw [leAt]
  cases (cell a key).le (cell b key) <;> cases (cell b key).le (cell a key) <;> rfl

theorem leAt_singleton (key : Nat) (a b : Row) :
    leAt [key] a b = (cell a key).le (cell b key) := by
  rw [leAt_cons, leAt, Bool.or_true, Bool.and_true]

/-- A column of whole numbers counts before the columns after it. -/
theorem leAt_integer {key : Nat} {keys : List Nat} {a b : Row} {i j : Int}
    (ha : cell a key = .integer i) (hb : cell b key = .integer j) :
    leAt (key :: keys) a b = true ↔ i < j ∨ i = j ∧ leAt keys a b = true := by
  rw [leAt_cons, ha, hb, Cell.le_integer, Cell.le_integer, Bool.and_eq_true, Bool.or_eq_true,
    decide_eq_true_eq, Bool.not_eq_true', decide_eq_false_iff_not]
  constructor
  · rintro ⟨hle, hlt | hrest⟩
    · exact .inl (not_le.mp hlt)
    · exact hle.lt_or_eq.imp_right fun heq => ⟨heq, hrest⟩
  · rintro (hlt | ⟨rfl, hrest⟩)
    · exact ⟨hlt.le, .inl hlt.not_ge⟩
    · exact ⟨le_rfl, .inr hrest⟩

theorem leAt_instant {key : Nat} {a b : Row} {s t : Instant}
    (ha : cell a key = .text (String.ofList (Timestamp.write s)))
    (hb : cell b key = .text (String.ofList (Timestamp.write t))) :
    leAt [key] a b = true ↔ Timestamp.write s ≤ Timestamp.write t := by
  rw [leAt_singleton, ha, hb]
  change decide (_ ≤ _) = true ↔ _
  rw [decide_eq_true_eq, String.le_iff_toList_le, String.toList_ofList, String.toList_ofList]

end Row

namespace Medium

variable {medium : Medium} {kind : RecordKind} {keys : List Nat} {ρ β γ : Type}
variable {fetch : Row → Except StoreError β} {decode : β → Except StoreError γ}
variable {row : ρ → Row}

theorem mapM_of_forall (item : ρ → γ) (items : List ρ)
    (hread : ∀ x ∈ items, ∃ raw, fetch (row x) = .ok raw ∧ decode raw = .ok (item x)) :
    ∃ raw, (items.map row).mapM fetch = .ok raw ∧ raw.mapM decode = .ok (items.map item) := by
  induction items with
  | nil => exact ⟨[], rfl, rfl⟩
  | cons x items ih =>
      obtain ⟨first, hfetch, hdecode⟩ := hread x List.mem_cons_self
      obtain ⟨later, hfetches, hdecodes⟩ := ih fun y hy => hread y (List.mem_cons_of_mem _ hy)
      refine ⟨first :: later, ?_, ?_⟩
      · rw [List.map_cons, List.mapM_cons, hfetch, hfetches]
        rfl
      · rw [List.mapM_cons, hdecode, hdecodes]
        rfl

/-- If each row is read as one item, the items come in the order of their rows. -/
theorem readRows_eq (item : ρ → γ) {items : List ρ} (hrows : medium.rows kind = .ok (items.map row))
    (hread : ∀ x ∈ items, ∃ raw, fetch (row x) = .ok raw ∧ decode raw = .ok (item x)) :
    medium.readRows kind keys fetch decode =
      .ok ((items.mergeSort fun x y => Row.leAt keys (row x) (row y)).map item) := by
  have hsorted : medium.sortedRows kind keys =
      .ok ((items.mergeSort fun x y => Row.leAt keys (row x) (row y)).map row) := by
    rw [sortedRows, hrows]
    exact congrArg Except.ok (List.map_mergeSort (f := row) fun x _ y _ => rfl).symm
  obtain ⟨raw, hfetches, hdecodes⟩ := mapM_of_forall item
    (items.mergeSort fun x y => Row.leAt keys (row x) (row y))
    fun x hx => hread x (List.mem_mergeSort.mp hx)
  rw [readRows, hsorted]
  change ((_ : List Row).mapM fetch >>= fun raw => raw.mapM decode) = _
  rw [hfetches]
  exact hdecodes

end Medium

/-! ### Records of one kind -/

/-- The records of a kind are those that hold what is selected of them. -/
theorem RecordKind.among_eq_map {kind : RecordKind} {ρ : Type} (select : Record → Option ρ)
    (record : ρ → Record)
    (hselect : ∀ r : Record, (select r).map record = if r.kind = kind then some r else none)
    (records : List Record) : kind.among records = (records.filterMap select).map record := by
  rw [List.map_filterMap]
  simp only [hselect]
  rw [among, ← List.filterMap_eq_filter]
  refine List.filterMap_congr fun r _ => ?_
  by_cases hkind : r.kind = kind <;> simp [hkind, Option.guard]

namespace Medium

variable {medium : Medium} {records : List Record}

/-- The nodes come in the order of their numbers. -/
theorem nodes_eq (hrows : medium.rows .nodes =
      .ok ((RecordKind.nodes.among records).map Record.stored)) :
    medium.nodes =
      .ok ((records.filterMap Record.node?).mergeSort fun a b => decide (a.id ≤ b.id)) := by
  rw [RecordKind.among_eq_map Record.node? .node
    (by rintro (_ | _ | _ | _) <;> rfl), List.map_map] at hrows
  have hle (a b : NodeRecord) : Row.leAt [0] (Record.node a).stored (Record.node b).stored =
      decide (a.id ≤ b.id) := by
    rw [Row.leAt_singleton]
    exact Cell.le_integer a.id b.id
  rw [nodes, readRows_eq id hrows fun a _ => ⟨(a.id, a.fingerprint.text), rfl, ?_⟩]
  · simp [hle]
  · simp only [Fingerprint.parse_text]
    rfl

theorem readInstant_write (t : Instant) :
    readInstant (String.ofList (Timestamp.write t)) = .ok t := by
  rw [readInstant, String.toList_ofList, Timestamp.read_write]

theorem readInterval_write (i : Interval) :
    readInterval (String.ofList (Timestamp.write i.start))
      (String.ofList (Timestamp.write i.stop)) = .ok i := by
  rw [readInterval, readInstant_write, readInstant_write]
  rfl

end Medium

theorem Record.stored_descriptor (r : DescriptorRecord) :
    (Record.descriptor r).stored =
      [.integer r.node, .text r.descriptor.nickname, .text r.descriptor.address.text,
        storedBandwidth r.descriptor.bandwidth.average,
        storedBandwidth r.descriptor.bandwidth.burst,
        storedBandwidth r.descriptor.bandwidth.observed, .text r.descriptor.platform,
        .text r.descriptor.version, .integer (if r.descriptor.hibernating then 1 else 0),
        .text r.descriptor.exitPolicy.lines,
        .text (String.ofList (Timestamp.write r.validity.start)),
        .text (String.ofList (Timestamp.write r.validity.stop))] := by
  simp only [← Cell.prefer_storedInstant]
  rfl

theorem Record.stored_family (e : FamilyEdge) :
    (Record.family e).stored =
      [.integer e.first, .integer e.second, .text (String.ofList (Timestamp.write e.time.start)),
        .text (String.ofList (Timestamp.write e.time.stop))] := by
  simp only [← Cell.prefer_storedInstant]
  rfl

/-- Rows of descriptors are in the order of their nodes, and for one node of their times. -/
theorem Row.leAt_descriptors (a b : DescriptorRecord) :
    leAt [0, 10] (Record.descriptor a).stored (Record.descriptor b).stored = true ↔
      a.node < b.node ∨ a.node = b.node ∧
        Timestamp.write a.validity.start ≤ Timestamp.write b.validity.start := by
  rw [Record.stored_descriptor, Record.stored_descriptor, leAt_integer rfl rfl,
    leAt_instant rfl rfl]

theorem Row.leAt_families (a b : FamilyEdge) :
    leAt [0, 1, 2] (Record.family a).stored (Record.family b).stored = true ↔
      a.first < b.first ∨ a.first = b.first ∧ (a.second < b.second ∨ a.second = b.second ∧
        Timestamp.write a.time.start ≤ Timestamp.write b.time.start) := by
  rw [Record.stored_family, Record.stored_family, leAt_integer rfl rfl, leAt_integer rfl rfl,
    leAt_instant rfl rfl]

namespace Medium

variable {medium : Medium} {records : List Record}

/-- Each descriptor comes back as it is stored. -/
theorem descriptors_eq_mergeSort (hrows : medium.rows .descriptors =
      .ok ((RecordKind.descriptors.among records).map Record.stored)) :
    medium.descriptors = .ok (((records.filterMap Record.descriptor?).mergeSort fun a b =>
      Row.leAt [0, 10] (Record.descriptor a).stored (Record.descriptor b).stored).map
        .ofRecord) := by
  rw [RecordKind.among_eq_map Record.descriptor? .descriptor
    (by rintro (_ | _ | _ | _) <;> rfl), List.map_map] at hrows
  have hread (r : DescriptorRecord) : ∃ raw,
      fetchDescriptor (Record.descriptor r).stored = .ok raw ∧
      (readInterval raw.2.1 raw.2.2).map raw.1 = .ok (StoredDescriptor.ofRecord r) := by
    rw [Record.stored_descriptor]
    refine ⟨_, rfl, ?_⟩
    rw [readInterval_write]
    cases hhibernating : r.descriptor.hibernating <;>
      simp [Except.map, StoredDescriptor.ofRecord, hhibernating]
  exact readRows_eq StoredDescriptor.ofRecord hrows fun r _ => hread r

/-- The descriptors come in the order in which they were written, if that is by node and time. -/
theorem descriptors_eq (hrows : medium.rows .descriptors =
      .ok ((RecordKind.descriptors.among records).map Record.stored))
    (hsorted : (records.filterMap Record.descriptor?).Pairwise fun a b =>
      a.node < b.node ∨ a.node = b.node ∧
        Timestamp.write a.validity.start ≤ Timestamp.write b.validity.start) :
    medium.descriptors = .ok ((records.filterMap Record.descriptor?).map .ofRecord) := by
  rw [descriptors_eq_mergeSort hrows, List.mergeSort_of_pairwise]
  exact hsorted.imp (Row.leAt_descriptors _ _).mpr

theorem families_eq_mergeSort (hrows : medium.rows .families =
      .ok ((RecordKind.families.among records).map Record.stored)) :
    medium.families = .ok ((records.filterMap Record.family?).mergeSort fun a b =>
      Row.leAt [0, 1, 2] (Record.family a).stored (Record.family b).stored) := by
  rw [RecordKind.among_eq_map Record.family? .family
    (by rintro (_ | _ | _ | _) <;> rfl), List.map_map] at hrows
  rw [families, readRows_eq id hrows fun e _ => ?_, List.map_id]
  · rfl
  · rw [Function.comp_apply, Record.stored_family]
    refine ⟨_, rfl, ?_⟩
    simp only [readInterval_write]
    rfl

/-- The edges come back, in some order. -/
theorem families_eq (hrows : medium.rows .families =
      .ok ((RecordKind.families.among records).map Record.stored)) :
    ∃ edges, medium.families = .ok edges ∧ edges.Perm (records.filterMap Record.family?) :=
  ⟨_, families_eq_mergeSort hrows, List.mergeSort_perm _ _⟩

end Medium

theorem Record.stored_address (r : AddressRecord) :
    (Record.address r).stored =
      [.text r.kept.address.text, r.kept.location.country.elim .null .text,
        r.kept.location.latitude.elim .null .real, r.kept.location.longitude.elim .null .real,
        .integer r.kept.systemNumber.toNat, .text r.kept.systemName] := by
  have hcoordinate (x : Option Double) :
      Cell.prefer .real (storedCoordinate x) = (x.bind Double.kept).elim .null .real := by
    cases x with
    | none => rfl
    | some y => exact Cell.prefer_ofDouble y
  have hcountry : Cell.prefer .text (r.location.country.elim .null .text) =
      r.location.country.elim .null .text := by
    cases r.location.country <;> rfl
  rw [AddressRecord.kept, Location.kept, ← hcoordinate, ← hcoordinate, ← hcountry]
  rfl

theorem Medium.readAddress_of_record (r : AddressRecord) :
    readAddress r.address.text r.location r.systemNumber.toNat r.systemName = .ok r := by
  have hnumber := r.systemNumber.toNat_lt
  rw [readAddress, Address.parse?_text]
  dsimp only
  rw [if_pos ⟨Int.natCast_nonneg _, by exact_mod_cast hnumber⟩, Int.toNat_natCast,
    UInt32.ofNat_toNat]

namespace Medium

variable {medium : Medium} {records : List Record}

/-- The addresses come back, in some order, with what is kept of their coordinates. -/
theorem addresses_eq_kept (hrows : medium.rows .addresses =
      .ok ((RecordKind.addresses.among records).map Record.stored)) :
    ∃ found, medium.addresses = .ok found ∧
      found.Perm ((records.filterMap Record.address?).map AddressRecord.kept) := by
  rw [RecordKind.among_eq_map Record.address? .address
    (by rintro (_ | _ | _ | _) <;> rfl), List.map_map] at hrows
  refine ⟨_, ?_, (List.mergeSort_perm _ fun a b =>
    Row.leAt [0] (Record.address a).stored (Record.address b).stored).map AddressRecord.kept⟩
  rw [addresses, readRows_eq AddressRecord.kept hrows fun r _ => ?_]
  · rfl
  · rw [Function.comp_apply, Record.stored_address]
    generalize r.kept = kept
    refine ⟨(kept.address.text, kept.location, kept.systemNumber.toNat, kept.systemName), ?_,
      readAddress_of_record kept⟩
    obtain ⟨address, number, name, country, latitude, longitude⟩ := kept
    cases country <;> cases latitude <;> cases longitude <;> rfl

/-- The addresses come back, in some order, if their coordinates are kept as they are. -/
theorem addresses_eq (hrows : medium.rows .addresses =
      .ok ((RecordKind.addresses.among records).map Record.stored))
    (hplain : ∀ r ∈ records.filterMap Record.address?, r.location.Plain) :
    ∃ found, medium.addresses = .ok found ∧ found.Perm (records.filterMap Record.address?) := by
  obtain ⟨found, hfound, hperm⟩ := addresses_eq_kept hrows
  have hkept : (records.filterMap Record.address?).map AddressRecord.kept =
      records.filterMap Record.address? := by
    refine (List.map_congr_left fun r hr => ?_).trans (List.map_id _)
    rw [AddressRecord.kept, (hplain r hr).kept_eq, id]
  exact ⟨found, hfound, hkept ▸ hperm⟩

end Medium

end RelaySnapshot
