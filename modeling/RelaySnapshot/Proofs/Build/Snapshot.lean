import RelaySnapshot.Proofs.Build.History
import RelaySnapshot.Proofs.Build.Outcome
import RelaySnapshot.Proofs.Build.Readings
import RelaySnapshot.Proofs.Emission.Coverage
import RelaySnapshot.Proofs.Enrichment.Answers
import RelaySnapshot.Proofs.Family.Edges

/-!
# Snapshots

What a build has written into a new store comes back as the tables that follow from the
reconciliation of its feeds. Rows refer to relays by the numbers that reconciliation has given to
them, so every number in a row is that of a node.
-/

namespace RelaySnapshot

open Reconciliation Collection

/-- The descriptors of a relay as they are stored, each with the time in which it is current. -/
def Timeline.stored (month : Month) (timeline : Timeline) :
    Except CalendarError (List StoredDescriptor) := do
  let intervals ← timeline.validity month
  return List.zipWith (fun d i => .ofRecord ⟨timeline.id, d, i⟩) timeline.descriptors intervals

/-- All that can be read from a store. -/
structure Tables where
  nodes : List NodeRecord
  descriptors : List StoredDescriptor
  families : List FamilyEdge
  addresses : List AddressRecord

def Medium.tables? (medium : Medium) : Except StoreError Tables := do
  return ⟨← medium.nodes, ← medium.descriptors, ← medium.families, ← medium.addresses⟩

namespace Tables

/-- The tables that follow from a reconciliation and from the answers about its addresses. -/
def ofReconciliation (lookups : Lookups) (r : Reconciliation) : Except CalendarError Tables := do
  let histories ← r.timelines.mapM (Family.History.ofTimeline r.month)
  return {
    nodes := r.timelines.map fun timeline => ⟨timeline.id, timeline.fingerprint⟩
    descriptors := (← r.timelines.mapM (Timeline.stored r.month)).flatten
    families := ← Family.edges r.month histories
    addresses := (Enrichment.run lookups none r.addresses).sent }

/-- The same rows; those of families and of addresses may come in another order. -/
structure Same (tables expected : Tables) : Prop where
  nodes : tables.nodes = expected.nodes
  descriptors : tables.descriptors = expected.descriptors
  families : tables.families.Perm expected.families
  addresses : tables.addresses.Perm expected.addresses

/-- Nothing is there twice, and what rows refer to is there. -/
structure Sound (tables : Tables) : Prop where
  ids : (tables.nodes.map (·.id)).Nodup
  fingerprints : (tables.nodes.map (·.fingerprint)).Nodup
  addresses : (tables.addresses.map (·.address)).Nodup
  described : ∀ node ∈ tables.nodes, ∃ d ∈ tables.descriptors, d.node = node.id
  descriptors : ∀ d ∈ tables.descriptors, d.node ∈ tables.nodes.map (·.id)
  families : ∀ e ∈ tables.families,
    e.first ∈ tables.nodes.map (·.id) ∧ e.second ∈ tables.nodes.map (·.id)

theorem Same.sound {tables expected : Tables} (h : tables.Same expected) (hsound : expected.Sound) :
    tables.Sound where
  ids := h.nodes ▸ hsound.ids
  fingerprints := h.nodes ▸ hsound.fingerprints
  addresses := (h.addresses.map _).nodup_iff.mpr hsound.addresses
  described := h.nodes ▸ h.descriptors ▸ hsound.described
  descriptors := h.nodes ▸ h.descriptors ▸ hsound.descriptors
  families := fun e he => h.nodes ▸ hsound.families e (h.families.mem_iff.mp he)

theorem nodes_of_ofReconciliation {lookups : Lookups} {r : Reconciliation} {tables : Tables}
    (h : ofReconciliation lookups r = .ok tables) :
    tables.nodes = r.timelines.map fun timeline => ⟨timeline.id, timeline.fingerprint⟩ := by
  obtain ⟨_, -, h⟩ := exists_of_bind_eq_ok h
  obtain ⟨_, -, h⟩ := exists_of_bind_eq_ok h
  obtain ⟨_, -, h⟩ := exists_of_bind_eq_ok h
  cases h
  rfl

end Tables

/-! ### Timelines without families -/

namespace Timeline

variable {month : Month} {finish : Instant} {timeline : Timeline}

theorem starts_withoutFamilies (timeline : Timeline) :
    timeline.withoutFamilies.starts = timeline.starts := by
  rw [starts, starts, withoutFamilies]
  cases timeline.descriptors with
  | nil => rfl
  | cons d rest => simp

theorem Backdatable.withoutFamilies (h : timeline.Backdatable) :
    timeline.withoutFamilies.Backdatable := by
  intro d hd
  rw [Timeline.withoutFamilies, List.head?_map] at hd
  obtain ⟨e, he, rfl⟩ := Option.mem_map.mp hd
  exact h e he

/-- What is stored of a relay is what was sent for it, and that says nothing of its families. -/
theorem stored_eq_described (hfinish : month.lastInstant = .ok finish)
    (hback : timeline.Backdatable) :
    timeline.stored month = .ok ((timeline.withoutFamilies.described finish).map .ofRecord) := by
  rw [stored, validity_eq_intervals hfinish hback]
  refine congrArg Except.ok ?_
  rw [described, starts_withoutFamilies, Timeline.withoutFamilies, List.zip_map_left, List.map_map,
    List.map_map, ← List.map_uncurry_zip_eq_zipWith]
  rfl

theorem mem_starts {t : Instant} (hback : timeline.Backdatable) (ht : t ∈ timeline.starts) :
    ∃ d ∈ timeline.descriptors, d.published.dayBefore = .ok t ∨ d.published = t := by
  cases hds : timeline.descriptors with
  | nil => simp [starts, hds] at ht
  | cons d rest =>
      obtain ⟨s, hs, hstarts⟩ := hback.starts_eq hds
      rw [hstarts] at ht
      rcases List.mem_cons.mp ht with rfl | ht
      · exact ⟨d, List.mem_cons_self, .inl hs⟩
      · obtain ⟨e, he, rfl⟩ := List.mem_map.mp ht
        exact ⟨e, List.mem_cons_of_mem _ he, .inr rfl⟩

end Timeline

namespace Build

/-! ### What is produced -/

/-- The records of timelines, of edges and of addresses. -/
def recordsOf (finish : Instant) (timelines : List Timeline) (edges : List FamilyEdge)
    (found : List AddressRecord) : List Record :=
  timelines.flatMap (Timeline.block finish) ++ edges.map .family ++ found.map .address

def tablesOf (finish : Instant) (timelines : List Timeline) (edges : List FamilyEdge)
    (found : List AddressRecord) : Tables where
  nodes := timelines.map fun timeline => ⟨timeline.id, timeline.fingerprint⟩
  descriptors := (timelines.flatMap (Timeline.described finish)).map .ofRecord
  families := edges
  addresses := found

section Records

variable (finish : Instant) (timelines : List Timeline) (edges : List FamilyEdge)
variable (found : List AddressRecord)

theorem filterMap_node?_recordsOf :
    (recordsOf finish timelines edges found).filterMap Record.node? =
      timelines.map fun timeline => ⟨timeline.id, timeline.fingerprint⟩ := by
  have hblock (timeline : Timeline) : (timeline.block finish).filterMap Record.node? =
      [⟨timeline.id, timeline.fingerprint⟩] := by
    simp [Timeline.block, Record.node?, List.filterMap_map, Function.comp_def]
  simp [recordsOf, List.filterMap_append, List.filterMap_flatMap, hblock, List.filterMap_map,
    Function.comp_def, Record.node?, ← List.map_eq_flatMap]

theorem filterMap_descriptor?_recordsOf :
    (recordsOf finish timelines edges found).filterMap Record.descriptor? =
      timelines.flatMap (Timeline.described finish) := by
  simp [recordsOf, List.filterMap_append, List.filterMap_flatMap,
    Timeline.filterMap_descriptor?_block, List.filterMap_map, Function.comp_def, Record.descriptor?]

theorem filterMap_family?_recordsOf :
    (recordsOf finish timelines edges found).filterMap Record.family? = edges := by
  simp [recordsOf, List.filterMap_append, List.filterMap_flatMap, Timeline.block,
    List.filterMap_map, Function.comp_def, Record.family?]

theorem filterMap_address?_recordsOf :
    (recordsOf finish timelines edges found).filterMap Record.address? = found := by
  simp [recordsOf, List.filterMap_append, List.filterMap_flatMap, Timeline.block,
    List.filterMap_map, Function.comp_def, Record.address?]

end Records

section Production

variable {lookups : Lookups} {capacity : Nat} {r : Reconciliation} {finish : Instant}
variable {found : List AddressRecord}

theorem edges_eq_derive {month : Month} (hfinish : month.lastInstant = .ok finish)
    (histories : List Family.History) :
    Family.edges month histories = .ok (Family.derive finish histories) := by
  rw [Family.edges, hfinish]
  rfl

theorem produce_eq (hfinish : r.month.lastInstant = .ok finish)
    (hcapacity : checkCapacity capacity = .ok ())
    (hback : ∀ timeline ∈ r.timelines, timeline.Backdatable)
    (hfound : Enrichment.run lookups none r.addresses = ⟨found, .finished⟩) :
    produce lookups capacity r = .ok
      ⟨recordsOf finish (r.timelines.map (·.withoutFamilies))
        (Family.derive finish (r.timelines.map Family.historyOf)) found, none⟩ := by
  have hback' : ∀ timeline ∈ r.timelines.map (·.withoutFamilies), timeline.Backdatable := by
    intro timeline hmem
    obtain ⟨original, horiginal, rfl⟩ := List.mem_map.mp hmem
    exact (hback original horiginal).withoutFamilies
  simp only [produce, Family.mapM_ofTimeline hfinish hback, hcapacity,
    Timeline.emit_open hfinish hback', edges_eq_derive hfinish, hfound]
  rfl

theorem ofReconciliation_eq (hfinish : r.month.lastInstant = .ok finish)
    (hback : ∀ timeline ∈ r.timelines, timeline.Backdatable)
    (hfound : Enrichment.run lookups none r.addresses = ⟨found, .finished⟩) :
    Tables.ofReconciliation lookups r = .ok
      (tablesOf finish (r.timelines.map (·.withoutFamilies))
        (Family.derive finish (r.timelines.map Family.historyOf)) found) := by
  have hstored : r.timelines.mapM (Timeline.stored r.month) = .ok (r.timelines.map
      fun timeline => (timeline.withoutFamilies.described finish).map StoredDescriptor.ofRecord) :=
    Timeline.mapM_eq_ok fun timeline hmem =>
      Timeline.stored_eq_described hfinish (hback timeline hmem)
  rw [tablesOf, List.map_map, List.flatMap_map, List.map_flatMap, List.flatMap_def]
  simp only [Tables.ofReconciliation, Family.mapM_ofTimeline hfinish hback, hstored,
    edges_eq_derive hfinish, hfound]
  rfl

end Production

/-! ### What is read -/

theorem pairwise_flatMap_described {finish : Instant} {timelines : List Timeline}
    (hids : timelines.Pairwise fun a b => a.id < b.id)
    (hstarts : ∀ timeline ∈ timelines,
      timeline.starts.Pairwise fun s t => Timestamp.write s ≤ Timestamp.write t) :
    (timelines.flatMap (Timeline.described finish)).Pairwise fun a b =>
      a.node < b.node ∨ a.node = b.node ∧
        Timestamp.write a.validity.start ≤ Timestamp.write b.validity.start := by
  refine List.pairwise_flatMap.mpr ⟨fun timeline hmem => ?_, hids.imp fun hlt a ha b hb => .inl ?_⟩
  · have hwritten := hstarts timeline hmem
    rw [← Timeline.map_start_intervals finish timeline.starts,
      ← Timeline.map_validity_described finish timeline, List.map_map,
      List.pairwise_map] at hwritten
    refine hwritten.imp_of_mem fun ha hb hle => .inr ⟨?_, hle⟩
    rw [Timeline.node_of_mem_described ha, Timeline.node_of_mem_described hb]
  · rw [Timeline.node_of_mem_described ha, Timeline.node_of_mem_described hb]
    exact hlt

/-- In the years that are written with four digits, times are stored in the order of time. -/
theorem pairwise_write_starts {timeline : Timeline} (hback : timeline.Backdatable)
    (hsorted : timeline.descriptors.Pairwise fun d e => d.published ≤ e.published)
    (hyears : ∀ d ∈ timeline.descriptors,
      0 ≤ d.published.date.year ∧ d.published.date.year ≤ 9999) :
    timeline.starts.Pairwise fun s t => Timestamp.write s ≤ Timestamp.write t := by
  have hrange : ∀ t ∈ timeline.starts, -1 ≤ t.date.year ∧ t.date.year ≤ 9999 := by
    intro t ht
    obtain ⟨d, hd, hbefore | rfl⟩ := Timeline.mem_starts hback ht
    · have hyear := hyears d hd
      obtain ⟨s, hs, hlow, hhigh⟩ :=
        Instant.exists_dayBefore (t := d.published) (by rw [Date.firstYear]; omega)
      obtain rfl := Except.ok.inj (hs.symm.trans hbefore)
      omega
    · have hyear := hyears d hd
      omega
  exact (Timeline.sorted_starts hback hsorted).imp_of_mem fun hs ht hle =>
    Timestamp.write_le_write (hrange _ hs).1 (hrange _ ht).2 hle

section Feed

variable {month : Month} {fed : List (Stream × Descriptor)} {timeline : Timeline}

theorem backdatable_of_years
    (hyears : ∀ entry ∈ fed, 0 ≤ entry.2.published.date.year ∧ entry.2.published.date.year ≤ 9999)
    (hmem : timeline ∈ (ofCollection month (addAll {} fed)).timelines) : timeline.Backdatable := by
  refine backdatable_of_mem month fed (fun entry hentry => ?_) hmem
  have hyear := hyears entry hentry
  obtain ⟨s, hs, -⟩ :=
    Instant.exists_dayBefore (t := entry.2.published) (by rw [Date.firstYear]; omega)
  exact ⟨s, hs⟩

theorem pairwise_ids_withoutFamilies (month : Month) (fed : List (Stream × Descriptor)) :
    ((ofCollection month (addAll {} fed)).timelines.map (·.withoutFamilies)).Pairwise
      fun a b => a.id < b.id :=
  List.pairwise_map.mpr (pairwise_ids month fed)

theorem pairwise_write_of_years
    (hyears : ∀ entry ∈ fed, 0 ≤ entry.2.published.date.year ∧ entry.2.published.date.year ≤ 9999)
    (hmem : timeline ∈ (ofCollection month (addAll {} fed)).timelines.map (·.withoutFamilies)) :
    timeline.starts.Pairwise fun s t => Timestamp.write s ≤ Timestamp.write t := by
  obtain ⟨original, horiginal, rfl⟩ := List.mem_map.mp hmem
  rw [Timeline.starts_withoutFamilies]
  refine pairwise_write_starts (backdatable_of_years hyears horiginal)
    (pairwise_published_of_mem month fed horiginal) fun d hd => ?_
  obtain ⟨stream, hfed, -⟩ := fed_of_mem month fed horiginal hd
  exact hyears _ hfed

end Feed

/-- A store with the records of some timelines is read as the tables of these timelines. -/
theorem exists_tables (finish : Instant) (edges : List FamilyEdge) {timelines : List Timeline}
    {found : List AddressRecord}
    (hids : timelines.Pairwise fun a b => a.id < b.id)
    (hstarts : ∀ timeline ∈ timelines,
      timeline.starts.Pairwise fun s t => Timestamp.write s ≤ Timestamp.write t)
    (hplain : ∀ r ∈ found, r.location.Plain) :
    ∃ tables, (Medium.tables (Database.empty.gain
      (recordsOf finish timelines edges found))).tables? = .ok tables ∧
      tables.Same (tablesOf finish timelines edges found) := by
  have hrows (kind : RecordKind) : (Medium.tables (Database.empty.gain
      (recordsOf finish timelines edges found))).rows kind =
      .ok ((kind.among (recordsOf finish timelines edges found)).map Record.stored) := by
    simp [Medium.rows, Database.gain, Database.empty]
  -- Nodes and descriptors have been written in the order in which they are read.
  have hnodes := Medium.nodes_eq (hrows .nodes)
  rw [filterMap_node?_recordsOf, List.mergeSort_of_pairwise
    (List.pairwise_map.mpr (hids.imp fun hlt => decide_eq_true hlt.le))] at hnodes
  have hdescriptors := Medium.descriptors_eq (hrows .descriptors)
  rw [filterMap_descriptor?_recordsOf] at hdescriptors
  obtain ⟨families, hfamilies, hedges⟩ := Medium.families_eq (hrows .families)
  rw [filterMap_family?_recordsOf] at hedges
  have haddresses := Medium.addresses_eq (hrows .addresses)
  rw [filterMap_address?_recordsOf] at haddresses
  obtain ⟨addresses, haddresses, hfound⟩ := haddresses hplain
  refine ⟨⟨_, _, families, addresses⟩, ?_, ⟨rfl, rfl, hedges, hfound⟩⟩
  rw [Medium.tables?, hnodes, hdescriptors (pairwise_flatMap_described hids hstarts), hfamilies,
    haddresses]
  rfl

/-- Timelines with numbers of their own can be written into a new store. -/
theorem wrote_recordsOf (finish : Instant) (edges : List FamilyEdge) (found : List AddressRecord)
    {timelines : List Timeline} (hids : timelines.Pairwise fun a b => a.id < b.id) :
    Wrote (.tables .empty) (recordsOf finish timelines edges found)
      (.tables (Database.empty.gain (recordsOf finish timelines edges found)))
      (.of (recordsOf finish timelines edges found)) := by
  refine ⟨Medium.insertAll_tables.mpr ⟨?_, rfl⟩, rfl⟩
  rw [← Database.gain_nil .empty, Database.accepts_gain_empty, Record.nodeIds,
    filterMap_node?_recordsOf, List.map_map]
  refine ⟨List.pairwise_map.mpr (hids.imp ne_of_lt), ?_⟩
  simp [Record.nodeIds]

theorem sound_tablesOf (finish : Instant) {timelines : List Timeline} {edges : List FamilyEdge}
    {found : List AddressRecord} (hids : timelines.Pairwise fun a b => a.id < b.id)
    (hfingerprints : (timelines.map (·.fingerprint)).Nodup)
    (hne : ∀ timeline ∈ timelines, timeline.descriptors ≠ [])
    (hedges : ∀ e ∈ edges, e.first ∈ timelines.map (·.id) ∧ e.second ∈ timelines.map (·.id))
    (hfound : (found.map (·.address)).Nodup) :
    (tablesOf finish timelines edges found).Sound := by
  have hnodes : (tablesOf finish timelines edges found).nodes.map (·.id) =
      timelines.map (·.id) := List.map_map
  exact {
    ids := by
      rw [hnodes]
      exact List.pairwise_map.mpr (hids.imp ne_of_lt)
    fingerprints := by
      rw [tablesOf, List.map_map]
      exact hfingerprints
    addresses := hfound
    described := by
      intro node hnode
      obtain ⟨timeline, hmem, rfl⟩ := List.mem_map.mp hnode
      obtain ⟨first, later, hdescribed, -⟩ :=
        Timeline.exists_described_cons finish (hne timeline hmem)
      have hfirst : first ∈ timeline.described finish := by simp [hdescribed]
      exact ⟨_, List.mem_map_of_mem (List.mem_flatMap.mpr ⟨timeline, hmem, hfirst⟩),
        Timeline.node_of_mem_described hfirst⟩
    descriptors := by
      intro d hd
      obtain ⟨record, hrecord, rfl⟩ := List.mem_map.mp hd
      obtain ⟨timeline, hmem, hrecord⟩ := List.mem_flatMap.mp hrecord
      rw [hnodes]
      exact List.mem_map.mpr ⟨timeline, hmem, (Timeline.node_of_mem_described hrecord).symm⟩
    families := by
      rw [hnodes]
      exact hedges }

/-- Edges are between relays of the reconciliation, and each of these has a descriptor. -/
theorem sound_ofCollection (finish : Instant) {month : Month} {fed : List (Stream × Descriptor)}
    {found : List AddressRecord}
    (hback : ∀ timeline ∈ (ofCollection month (addAll {} fed)).timelines, timeline.Backdatable)
    (hfound : (found.map (·.address)).Nodup) :
    (tablesOf finish ((ofCollection month (addAll {} fed)).timelines.map (·.withoutFamilies))
      (Family.derive finish
        ((ofCollection month (addAll {} fed)).timelines.map Family.historyOf)) found).Sound := by
  refine sound_tablesOf finish (pairwise_ids_withoutFamilies month fed) ?_ ?_ ?_ hfound
  · rw [List.map_map]
    exact nodup_fingerprints month fed
  · intro timeline hmem
    obtain ⟨original, horiginal, rfl⟩ := List.mem_map.mp hmem
    simpa [Timeline.withoutFamilies] using ne_nil_of_mem month fed horiginal
  · intro e he
    have hrelays := (Family.mem_derive (Family.ordered_historyOf hback) he).2.2
    rw [List.map_map] at hrelays ⊢
    exact hrelays

/-! ### Whatever the order -/

section Orders

variable {production : Production} {medium written : Medium} {rows : RowCounts}

theorem eq_of_wrote {records : List Record} {written' : Medium} {rows' : RowCounts}
    (h : Wrote medium records written rows) (h' : Wrote medium records written' rows') :
    rows' = rows ∧ written' = written :=
  ⟨h'.counted.trans h.counted.symm, Except.ok.inj (h'.inserted.symm.trans h.inserted)⟩

theorem session_of_wrote (h : Wrote medium production.records written rows) {received : List Record}
    (hamong : ∀ kind : RecordKind, kind.among received = kind.among production.records) :
    Session.run medium (received.map .record) = (.ok rows, written) := by
  have hwrote := h.congr fun kind => (hamong kind).symm
  rw [Session.run_records, hwrote.inserted, ← hwrote.counted]

theorem leads_of_wrote (h : Wrote medium production.records written rows) {entry : Entry}
    {medium' : Medium} (hentry : entry.Leads medium medium') (hfire : .fire ∉ entry.events)
    (hamong : ∀ kind : RecordKind,
      kind.among (Event.sent entry.events) = kind.among production.records) :
    entry.result = .ok rows ∧ medium' = written := by
  have hsent := h.congr fun kind => (hamong kind).symm
  obtain ⟨taken, htaken⟩ :=
    Medium.exists_insertAll_of_prefixes hentry.received_prefix hsent.inserted
  obtain ⟨counts, hresult⟩ :=
    Entry.exists_counts_of_succeeded (hentry.succeeded_of_insertAll hfire htaken)
  obtain ⟨-, hreceived, hall, -⟩ := hentry.ok hresult
  obtain ⟨rfl, rfl⟩ := eq_of_wrote hsent (hreceived.congr hall)
  exact ⟨hresult, rfl⟩

theorem result_of_wrote (h : Wrote medium production.records written rows)
    (hfailure : production.failure = none) {capacity : Nat} {w : World}
    (hreachable : Reachable capacity production medium w) {result : Except BuildError RowCounts}
    (hresult : w.result? = some result) :
    (result = .ok rows ∧ w.store = written) ∨
      ∃ e, result = .error (.persistence (.database e)) := by
  have hsound := hreachable.sound
  cases result with
  | ok rows' =>
      have hcomplete := hsound.complete_of_ended (hsound.sink_of_result_ok hresult)
      obtain ⟨rfl, hstore⟩ := eq_of_wrote h hcomplete.wrote
      exact .inl ⟨rfl, hstore⟩
  | error cause =>
      rcases hsound.cause_of_result_error hreachable.caused hresult with
        ⟨e, hlookup, -⟩ | ⟨e, rfl⟩
      · rw [hfailure] at hlookup
        cases hlookup
      · exact .inr ⟨e, rfl⟩

theorem run_of_wrote {month : Month} {lookups : Lookups} {capacity : Nat} {feeds : Feeds}
    (reading : feeds.Reading) (hfinish : feeds.Finish)
    (hproduced : produce lookups capacity
      (ofCollection month (addAll {} reading.fed)) = .ok production)
    (hfailure : production.failure = none)
    (hwrote : Wrote medium production.records written rows) :
    run month lookups capacity reading medium = some (.ok (.ok ⟨feeds.total,
      (ofCollection month (addAll {} reading.fed)).timelines.length, rows⟩, written)) := by
  have hwrite : write production medium = (.ok rows, written) :=
    write_eq_ok_iff.mpr ⟨hfailure, hwrote⟩
  rw [run, reading.outcome_eq hfinish, Option.map_some]
  simp only [hproduced, bind, Except.bind, hwrite]
  rfl

theorem run_congr (month : Month) (lookups : Lookups) (capacity : Nat) {feeds : Feeds}
    (hfinish : feeds.Finish) {reading reading' : feeds.Reading}
    (hshuffled : Shuffled reading.fed reading'.fed) (medium : Medium) :
    run month lookups capacity reading medium = run month lookups capacity reading' medium := by
  have hsame : ofCollection month (addAll {} reading.fed) =
      ofCollection month (addAll {} reading'.fed) := ofMerged_merged_eq month hshuffled
  rw [run, run, reading.outcome_eq hfinish, reading'.outcome_eq hfinish, hsame]

end Orders

/-! ### The main statement -/

/-- What a build leaves in a new store, given a reconciliation and who is asked. -/
structure Snapshot (lookups : Lookups) (capacity : Nat) (r : Reconciliation)
    (production : Production) (summary : Summary) (medium : Medium) (tables : Tables) : Prop where
  read : medium.tables? = .ok tables
  same : ∃ expected, Tables.ofReconciliation lookups r = .ok expected ∧ tables.Same expected
  sound : tables.Sound
  relays : summary.relays = tables.nodes.length
  rows : medium.rowCounts = .ok summary.rows
  produced : produce lookups capacity r = .ok production
  /-- The order among records of different kinds makes no difference to a session. -/
  session : ∀ received : List Record,
    (∀ kind : RecordKind, kind.among received = kind.among production.records) →
      Session.run (.tables .empty) (received.map .record) = (.ok summary.rows, medium)
  /-- It does not matter when records are sent and received, and when queues are shut. -/
  turn : ∀ (entry : Entry) (medium' : Medium), entry.Leads (.tables .empty) medium' →
    .fire ∉ entry.events →
    (∀ kind : RecordKind, kind.among (Event.sent entry.events) = kind.among production.records) →
      entry.result = .ok summary.rows ∧ medium' = medium
  /-- Nor does it matter which party takes the next step, unless the database itself fails. -/
  parties : ∀ (w : World) (result : Except BuildError RowCounts),
    Reachable capacity production (.tables .empty) w → w.result? = some result →
      (result = .ok summary.rows ∧ w.store = medium) ∨
        ∃ e, result = .error (.persistence (.database e))

namespace Snapshot
variable {lookups : Lookups} {capacity : Nat} {r : Reconciliation} {production : Production}
  {summary : Summary} {medium : Medium} {tables : Tables}

theorem nodes (h : Snapshot lookups capacity r production summary medium tables) :
    medium.nodes =
      .ok (r.timelines.map fun timeline => ⟨timeline.id, timeline.fingerprint⟩) := by
  obtain ⟨expected, hexpected, hsame⟩ := h.same
  obtain ⟨nodes, hnodes, hread⟩ := exists_of_bind_eq_ok h.read
  obtain ⟨_, -, hread⟩ := exists_of_bind_eq_ok hread
  obtain ⟨_, -, hread⟩ := exists_of_bind_eq_ok hread
  obtain ⟨_, -, hread⟩ := exists_of_bind_eq_ok hread
  have htables : nodes = tables.nodes := by
    cases hread
    rfl
  rw [hnodes, htables, hsame.nodes, Tables.nodes_of_ofReconciliation hexpected]

end Snapshot
theorem snapshot_of_reading {month : Month} {lookups : Lookups} {capacity : Nat} {feeds : Feeds}
    (reading : feeds.Reading) (hmonth : month.next.index ≠ 12 * Date.firstYear)
    (hcapacity : checkCapacity capacity = .ok ()) (hlookups : lookups.Answer)
    (hfinish : feeds.Finish)
    (hyears : ∀ entry ∈ reading.fed,
      0 ≤ entry.2.published.date.year ∧ entry.2.published.date.year ≤ 9999) :
    ∃ production summary medium tables,
      run month lookups capacity reading (.tables .empty) = some (.ok (.ok summary, medium)) ∧
      summary.sources = feeds.total ∧
      Snapshot lookups capacity (ofCollection month (addAll {} reading.fed))
        production summary medium tables := by
  have hsame : (ofCollection month (addAll {} reading.fed)).month = month :=
    (enrolled_ofCollection month _).month_eq
  have hback : ∀ timeline ∈ (ofCollection month (addAll {} reading.fed)).timelines,
      timeline.Backdatable := fun timeline => backdatable_of_years hyears
  have hids := pairwise_ids_withoutFamilies month reading.fed
  have hstarts : ∀ timeline ∈
      (ofCollection month (addAll {} reading.fed)).timelines.map (·.withoutFamilies),
      timeline.starts.Pairwise fun s t => Timestamp.write s ≤ Timestamp.write t :=
    fun timeline => pairwise_write_of_years hyears
  obtain ⟨finish, hfinal⟩ := month.exists_lastInstant hmonth
  rw [← hsame] at hfinal
  obtain ⟨found, hfound, haddresses, hplain⟩ :=
    Enrichment.exists_run hlookups (ofCollection month (addAll {} reading.fed)).addresses
  -- Families are sent for the timelines as they are, descriptors for those without families.
  have hproduced := produce_eq hfinal hcapacity hback hfound
  have hexpected := ofReconciliation_eq hfinal hback hfound
  have hsound := sound_ofCollection finish hback haddresses
  set r := ofCollection month (addAll {} reading.fed)
  set edges := Family.derive finish (r.timelines.map Family.historyOf)
  set timelines := r.timelines.map (·.withoutFamilies)
  have hwrote := wrote_recordsOf finish edges found hids
  obtain ⟨tables, hread, htables⟩ := exists_tables finish edges hids hstarts hplain
  set production : Production := ⟨recordsOf finish timelines edges found, none⟩
  have hfailure : production.failure = none := rfl
  change Wrote _ production.records _ _ at hwrote
  have hrun := run_of_wrote reading hfinish hproduced hfailure hwrote
  refine ⟨_, _, _, tables, hrun, rfl, {
    read := hread
    same := ⟨_, hexpected, htables⟩
    sound := htables.sound hsound
    relays := by
      rw [htables.nodes, tablesOf, List.length_map, List.length_map]
    rows := Medium.rowCounts_gain_empty _
    produced := hproduced
    session := fun received => session_of_wrote hwrote
    turn := fun entry medium' => leads_of_wrote hwrote
    parties := fun w result hreachable => result_of_wrote hwrote hfailure hreachable }⟩

/--
If everybody who is asked answers, a build on a new store succeeds with a snapshot that depends on
nothing but what the sources hold in the years from 0 to 9999, and on the order in which the readers
come by recent descriptors of one relay and one time in different sources.
-/
theorem snapshot_of_feeds {month : Month} {lookups : Lookups} {capacity : Nat}
    {main complementary : Option (List Descriptor)} {recent : List (List Descriptor)}
    (hmonth : month.next.index ≠ 12 * Date.firstYear)
    (hcapacity : checkCapacity capacity = .ok ()) (hlookups : lookups.Answer)
    (hyears : ∀ entry ∈ (streamed main complementary recent).flatten,
      0 ≤ entry.2.published.date.year ∧ entry.2.published.date.year ≤ 9999) :
    let feeds := Feeds.ofBatches main complementary recent
    (∀ fed, Merges (streamed main complementary recent) fed ↔
      ∃ reading : feeds.Reading, reading.fed = fed) ∧
    (∀ reading : feeds.Reading, ∃ production summary medium tables,
      run month lookups capacity reading (.tables .empty) = some (.ok (.ok summary, medium)) ∧
      summary.sources =
        ⟨(streamed main complementary recent).length, reading.fed.length, 0⟩ ∧
      Snapshot lookups capacity (ofCollection month (addAll {} reading.fed))
        production summary medium tables) ∧
    ∀ reading reading' : feeds.Reading,
      recent.Pairwise Untied ∨ TiedAlike reading.fed reading'.fed →
        run month lookups capacity reading (.tables .empty) =
          run month lookups capacity reading' (.tables .empty) := by
  intro feeds
  have hmerges (reading : feeds.Reading) :
      Merges (streamed main complementary recent) reading.fed :=
    merges_streamed_iff.mpr ⟨reading, rfl⟩
  refine ⟨fun fed => merges_streamed_iff, fun reading => ?_, fun reading reading' hties => ?_⟩
  · have hperm := (hmerges reading).perm
    obtain ⟨production, summary, medium, tables, hrun, hsources, hsnapshot⟩ :=
      snapshot_of_reading reading hmonth hcapacity hlookups finish_ofBatches
        fun entry hentry => hyears entry (hperm.mem_iff.mp hentry)
    rw [total_ofBatches, ← hperm.length_eq] at hsources
    exact ⟨production, summary, medium, tables, hrun, hsources, hsnapshot⟩
  · have htied : TiedAlike reading.fed reading'.fed :=
      hties.elim (tiedAlike_of_untied (hmerges reading) (hmerges reading')) id
    exact run_congr month lookups capacity finish_ofBatches
      (shuffled_of_merges (hmerges reading) (hmerges reading') htied) _

/-! ### Two relays in March 2020 -/

def endOfMarch : Instant :=
  (Instant.of? (midnight 3 31).date 23 59 59).getD (midnight 3 31)

/-- The first relay, which has declared the second one since the fifth. -/
def declaring : Descriptor :=
  .bare alpha fifthOfMarch (.ofList [beta])

def undeclaring : Descriptor :=
  .bare alpha (midnight 2 28) .empty

def answering : Descriptor :=
  .bare beta fifthOfMarch (.ofList [alpha])

def everywhere : Lookups where
  registry addresses := .ok (addresses.map fun address => ⟨64496, "EXAMPLE", address⟩)
  geo _ := .ok (some { country := some "DE", latitude := some ⟨0x404A000000000000⟩ })

theorem answer_everywhere : everywhere.Answer where
  registry addresses := ⟨_, rfl⟩
  geo address := by
    refine ⟨_, rfl, fun location hlocation => ?_⟩
    cases Option.some.inj hlocation
    refine ⟨fun x hx => ?_, by simp⟩
    cases Option.some.inj hx
    exact ⟨by decide, by decide⟩

/-- What has been fed when the recent source is read first. -/
def recentFirst : List (Stream × Descriptor) :=
  [(.recent, answering), (.main, declaring), (.complementary, undeclaring)]

theorem merges_recentFirst :
    Merges (streamed (some [declaring]) (some [undeclaring]) [[answering]]) recentFirst := by
  refine @Merges.next (Stream × Descriptor)
    [[(.main, declaring)], [(.complementary, undeclaring)]] [] [] _ _ ?_
  refine @Merges.next (Stream × Descriptor) [] [] [[(.complementary, undeclaring)], []] _ _ ?_
  exact @Merges.next (Stream × Descriptor) [[]] [] [[]] _ _ (.done (by simp))

theorem ofReconciliation_recentFirst :
    Tables.ofReconciliation everywhere (ofCollection ⟨12 * 2020 + 2⟩ (addAll {} recentFirst)) =
      .ok {
        nodes := [⟨1, alpha⟩, ⟨2, beta⟩]
        descriptors := [
          .ofRecord ⟨1, undeclaring, ⟨midnight 2 27, fifthOfMarch⟩⟩,
          .ofRecord ⟨1, declaring, ⟨fifthOfMarch, endOfMarch⟩⟩,
          .ofRecord ⟨2, answering, ⟨midnight 3 4, endOfMarch⟩⟩]
        families := [⟨1, 2, ⟨fifthOfMarch, endOfMarch⟩⟩]
        addresses := [⟨.v4 0, 64496, "EXAMPLE",
          { country := some "DE", latitude := some ⟨0x404A000000000000⟩ }⟩] } := by
  set r := ofCollection ⟨12 * 2020 + 2⟩ (addAll {} recentFirst)
  have hmonth : r.month = ⟨12 * 2020 + 2⟩ := by
    cbv
  have htimelines : r.timelines =
      [⟨alpha, 1, [undeclaring, declaring]⟩, ⟨beta, 2, [answering]⟩] := by
    cbv
  have haddresses : r.addresses = [.v4 0] := by
    cbv
  have hedges : r.timelines.mapM (Family.History.ofTimeline r.month) >>= Family.edges r.month =
      .ok [⟨1, 2, ⟨fifthOfMarch, endOfMarch⟩⟩] := by
    cbv
  clear_value r
  rw [Tables.ofReconciliation]
  cases hhistories : r.timelines.mapM (Family.History.ofTimeline r.month) with
  | error e =>
      rw [hhistories] at hedges
      cases hedges
  | ok histories =>
      rw [hhistories] at hedges
      change Family.edges r.month histories = _ at hedges
      simp only [bind, Except.bind, hedges, haddresses]
      rw [htimelines, hmonth]
      rfl

/-- Here the recent source is read first, which makes no difference. -/
theorem snapshot_of_feeds_march :
    let feeds := Feeds.ofBatches (some [declaring]) (some [undeclaring]) [[answering]]
    ∃ reading : feeds.Reading, reading.fed = recentFirst ∧ ∃ summary medium tables,
      run ⟨12 * 2020 + 2⟩ everywhere 16 reading (.tables .empty) =
        some (.ok (.ok summary, medium)) ∧
      summary.sources = ⟨3, 3, 0⟩ ∧ medium.tables? = .ok tables ∧
      tables.nodes = [⟨1, alpha⟩, ⟨2, beta⟩] ∧
      tables.descriptors = [
        .ofRecord ⟨1, undeclaring, ⟨midnight 2 27, fifthOfMarch⟩⟩,
        .ofRecord ⟨1, declaring, ⟨fifthOfMarch, endOfMarch⟩⟩,
        .ofRecord ⟨2, answering, ⟨midnight 3 4, endOfMarch⟩⟩] ∧
      tables.families = [⟨1, 2, ⟨fifthOfMarch, endOfMarch⟩⟩] ∧
      tables.addresses = [⟨.v4 0, 64496, "EXAMPLE",
        { country := some "DE", latitude := some ⟨0x404A000000000000⟩ }⟩] ∧
      ∀ reading' : feeds.Reading, run ⟨12 * 2020 + 2⟩ everywhere 16 reading' (.tables .empty) =
        some (.ok (.ok summary, medium)) := by
  intro feeds
  have hmonth : (⟨12 * 2020 + 2⟩ : Month).next.index ≠ 12 * Date.firstYear := by decide
  have hyears : ∀ entry ∈ (streamed (some [declaring]) (some [undeclaring]) [[answering]]).flatten,
      0 ≤ entry.2.published.date.year ∧ entry.2.published.date.year ≤ 9999 := by
    decide
  have hcapacity : checkCapacity 16 = .ok () := by decide
  obtain ⟨hmerges, hsnapshot, hsame⟩ := snapshot_of_feeds hmonth hcapacity answer_everywhere hyears
  obtain ⟨reading, hreading⟩ := (hmerges recentFirst).mp merges_recentFirst
  obtain ⟨production, summary, medium, tables, hrun, hsources, h⟩ := hsnapshot reading
  rw [hreading] at hsources h
  obtain ⟨expected, hexpected, hrows⟩ := h.same
  cases ofReconciliation_recentFirst.symm.trans hexpected
  have huntied : [[answering]].Pairwise Untied := List.pairwise_singleton _ _
  exact ⟨reading, hreading, summary, medium, tables, hrun, hsources, h.read, hrows.nodes,
    hrows.descriptors, List.perm_singleton.mp hrows.families,
    List.perm_singleton.mp hrows.addresses,
    fun reading' => (hsame reading' reading (.inl huntied)).trans hrun⟩

end Build

end RelaySnapshot
