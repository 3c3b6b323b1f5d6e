import Mathlib
import RelaySnapshot.Emission
import RelaySnapshot.Proofs.Reconciliation.Timelines
import RelaySnapshot.Proofs.Timeline.Validity

/-!
# What emission says about the time of a relay

With open queues everything is sent: for each relay its node and then one record for each of its
descriptors. From the day before its first descriptor up to the end of the month there is at every
instant exactly one record of the relay that is valid.
-/

namespace RelaySnapshot

theorem Sending.ofRecords_open (records : List Record) :
    ofRecords (fun _ => false) records = ⟨records, none⟩ := by
  induction records with
  | nil => rfl
  | cons record records ih => simp [ofRecords, ih]

namespace Timeline

/-! ### The records of one relay -/

/-- The descriptor records of a relay in the order in which they are sent. -/
def described (finish : Instant) (timeline : Timeline) : List DescriptorRecord :=
  (timeline.descriptors.zip (intervals finish timeline.starts)).map fun p =>
    ⟨timeline.id, p.1, p.2⟩

def block (finish : Instant) (timeline : Timeline) : List Record :=
  .node ⟨timeline.id, timeline.fingerprint⟩ :: (timeline.described finish).map .descriptor

variable {timeline : Timeline} {finish : Instant}

theorem records_eq_block {month : Month} (hfinish : month.lastInstant = .ok finish)
    (hback : timeline.Backdatable) : timeline.records month = .ok (timeline.block finish) := by
  rw [records, validity_eq_intervals hfinish hback]
  refine congrArg (fun descriptors => Except.ok (Record.node _ :: descriptors)) ?_
  rw [described, List.map_map, ← List.map_uncurry_zip_eq_zipWith]
  rfl

theorem map_descriptor_described (finish : Instant) (timeline : Timeline) :
    (timeline.described finish).map (·.descriptor) = timeline.descriptors := by
  rw [described, List.map_map]
  exact List.map_fst_zip (by simp)

theorem map_validity_described (finish : Instant) (timeline : Timeline) :
    (timeline.described finish).map (·.validity) = intervals finish timeline.starts := by
  rw [described, List.map_map]
  exact List.map_snd_zip (by simp)

theorem node_of_mem_described {record : DescriptorRecord}
    (hmem : record ∈ timeline.described finish) : record.node = timeline.id := by
  obtain ⟨_, _, rfl⟩ := List.mem_map.mp hmem
  rfl

theorem map_descriptor_filter_described {t : Instant} :
    ((timeline.described finish).filter fun record => record.validity.contains t).map
      (·.descriptor) = ((timeline.descriptors.zip (intervals finish timeline.starts)).filter
        fun p => p.2.contains t).map Prod.fst := by
  rw [described, List.filter_map, List.map_map]
  rfl

/-- The records of a relay follow each other without a gap and leave no instant to two of them. -/
structure Covers (finish : Instant) (timeline : Timeline) (records : List DescriptorRecord) :
    Prop where
  descriptors : records.map (·.descriptor) = timeline.descriptors
  node : ∀ record ∈ records, record.node = timeline.id
  contiguous : records.IsChain fun record next => record.validity.stop = next.validity.start
  ne_nil : records ≠ []
  first : (records.head ne_nil).descriptor.published.dayBefore =
    .ok (records.head ne_nil).validity.start
  last : (records.getLast ne_nil).validity.stop = finish
  covered : ∀ t, t < finish → (records.head ne_nil).validity.start ≤ t →
    ∃ record, records.filter (fun record => record.validity.contains t) = [record] ∧
      timeline.current? t = some record.descriptor
  not_covered : ∀ t, t < (records.head ne_nil).validity.start →
    ∀ record ∈ records, record.validity.contains t = false

/-- The first record holds the first descriptor, from the first instant on. -/
theorem exists_described_cons (finish : Instant) (hne : timeline.descriptors ≠ []) :
    ∃ first later, timeline.described finish = first :: later ∧
      timeline.descriptors.head? = some first.descriptor ∧
      timeline.starts.head? = some first.validity.start := by
  have hdescriptors := map_descriptor_described finish timeline
  have hstarts := map_start_intervals finish timeline.starts
  rw [← map_validity_described finish timeline, List.map_map] at hstarts
  cases hdescribed : timeline.described finish with
  | nil =>
      rw [hdescribed] at hdescriptors
      exact absurd hdescriptors.symm hne
  | cons first later =>
      rw [hdescribed] at hdescriptors hstarts
      exact ⟨first, later, rfl, by simp [← hdescriptors], by simp [← hstarts]⟩

theorem covers_described (hback : timeline.Backdatable) (hne : timeline.descriptors ≠ [])
    (hsorted : timeline.descriptors.Pairwise fun d e => d.published ≤ e.published) :
    timeline.Covers finish (timeline.described finish) := by
  obtain ⟨first, later, heq, hd, hs⟩ := exists_described_cons finish hne
  obtain ⟨d, rest, hds⟩ := List.exists_cons_of_ne_nil hne
  obtain ⟨s, hdayBefore, hstarts⟩ := hback.starts_eq hds
  rw [hds] at hd
  rw [hstarts] at hs
  cases Option.some.inj hd
  cases Option.some.inj hs
  have hhead : ∀ h, (timeline.described finish).head h = first := by simp [heq]
  have hvalidity := map_validity_described finish timeline
  exact {
    descriptors := map_descriptor_described finish timeline
    node := fun record hmem => node_of_mem_described hmem
    contiguous := by
      have hchain := isChain_intervals finish timeline.starts
      rwa [← hvalidity, List.isChain_map] at hchain
    ne_nil := by simp [heq]
    first := by
      rw [hhead]
      exact hdayBefore
    last := by
      apply stop_getLast?_intervals finish timeline.starts
      rw [← hvalidity, List.getLast?_map, List.getLast?_eq_some_getLast (by simp [heq])]
      rfl
    covered := by
      intro t ht hle
      rw [hhead] at hle
      have hfilter := filter_contains_zip ht hback hsorted (by simp [hstarts]) hle
      rw [← map_descriptor_filter_described] at hfilter
      cases hcurrent : timeline.current? t with
      | none => simp [current?, hds] at hcurrent
      | some e =>
          rw [hcurrent] at hfilter
          obtain ⟨record, hrecord, rfl⟩ := List.map_eq_singleton_iff.mp hfilter
          exact ⟨record, hrecord, rfl⟩
    not_covered := by
      intro t hlt record hmem
      rw [hhead] at hlt
      have hstart : record.validity.start ∈ timeline.starts := by
        rw [← map_start_intervals finish timeline.starts, ← hvalidity]
        exact List.mem_map_of_mem (List.mem_map_of_mem hmem)
      have hle : first.validity.start ≤ record.validity.start := by
        have hpairwise := sorted_starts hback hsorted
        rw [hstarts] at hstart hpairwise
        rcases List.mem_cons.mp hstart with hstart | hstart
        · rw [hstart]
          exact Instant.le_refl _
        · exact List.rel_of_pairwise_cons hpairwise hstart
      simp [Interval.contains, Instant.not_le.mpr (Instant.lt_of_lt_of_le hlt hle)] }

/-! ### The records of all relays -/

theorem emit_open {month : Month} (hfinish : month.lastInstant = .ok finish)
    {timelines : List Timeline} (hback : ∀ timeline ∈ timelines, timeline.Backdatable) :
    emit month (fun _ => false) timelines = .ok ⟨timelines.flatMap (block finish), none⟩ := by
  induction timelines with
  | nil => rfl
  | cons timeline timelines ih =>
      rw [emit, records_eq_block hfinish (hback timeline (by simp)),
        ih fun other hmem => hback other (List.mem_cons_of_mem _ hmem)]
      simp only [bind, Except.bind, Sending.ofRecords_open, List.flatMap_cons]
      rfl

theorem filterMap_descriptor?_block :
    (timeline.block finish).filterMap Record.descriptor? = timeline.described finish := by
  rw [block, List.filterMap_cons_none rfl, List.filterMap_map]
  exact List.filterMap_some

/-- The records of one relay among those of relays that differ in their numbers. -/
theorem filter_node_flatMap_described {timelines : List Timeline}
    (hnodup : (timelines.map (·.id)).Nodup) (hmem : timeline ∈ timelines) :
    (timelines.flatMap (described finish)).filter (fun record => record.node = timeline.id) =
      timeline.described finish := by
  induction timelines with
  | nil => simp at hmem
  | cons other timelines ih =>
      rw [List.map_cons, List.nodup_cons] at hnodup
      rw [List.flatMap_cons, List.filter_append]
      rcases List.mem_cons.mp hmem with rfl | hmem
      · have hown : (timeline.described finish).filter (fun record => record.node = timeline.id) =
            timeline.described finish :=
          List.filter_eq_self.mpr fun record hrecord => by simp [node_of_mem_described hrecord]
        have hothers : (timelines.flatMap (described finish)).filter
            (fun record => record.node = timeline.id) = [] := by
          rw [List.filter_eq_nil_iff]
          intro record hrecord
          obtain ⟨other, hother, hrecord⟩ := List.mem_flatMap.mp hrecord
          have hid : other.id ≠ timeline.id :=
            fun heq => hnodup.1 (heq ▸ List.mem_map_of_mem hother)
          simpa [node_of_mem_described hrecord] using hid
        rw [hown, hothers, List.append_nil]
      · have hid : other.id ≠ timeline.id :=
          fun heq => hnodup.1 (heq ▸ List.mem_map_of_mem hmem)
        have hnone : (other.described finish).filter (fun record => record.node = timeline.id) =
            [] := by
          rw [List.filter_eq_nil_iff]
          intro record hrecord
          simpa [node_of_mem_described hrecord] using hid
        rw [hnone, List.nil_append, ih hnodup.2 hmem]

end Timeline

/-! ### The main statement -/

/-- The descriptor records that were sent with a number. -/
def Sending.recordsOf (sending : Sending) (id : NodeId) : List DescriptorRecord :=
  (sending.sent.filterMap Record.descriptor?).filter fun record => record.node = id

theorem Sending.recordsOf_block {finish : Instant} {timelines : List Timeline}
    {timeline : Timeline} (hnodup : (timelines.map (·.id)).Nodup) (hmem : timeline ∈ timelines) :
    recordsOf ⟨timelines.flatMap (Timeline.block finish), none⟩ timeline.id =
      timeline.described finish := by
  rw [recordsOf, List.filterMap_flatMap]
  simp only [Timeline.filterMap_descriptor?_block]
  exact Timeline.filter_node_flatMap_described hnodup hmem

/--
Whatever was fed, the records that are sent for a relay stand after its node and cover the time from
the day before its first descriptor to the end of the month.
-/
theorem Timeline.covers_emit (month : Month) (fed : List (Stream × Descriptor)) {finish : Instant}
    (hfinish : month.lastInstant = .ok finish)
    (hback : ∀ timeline ∈ (Reconciliation.ofCollection month (.addAll {} fed)).timelines,
      timeline.Backdatable) :
    ∃ sending,
      emit month (fun _ => false)
        (Reconciliation.ofCollection month (.addAll {} fed)).timelines = .ok sending ∧
      sending.stopped = none ∧
      ∀ timeline ∈ (Reconciliation.ofCollection month (.addAll {} fed)).timelines,
        timeline.Covers finish (sending.recordsOf timeline.id) ∧
        (.node ⟨timeline.id, timeline.fingerprint⟩ ::
          (sending.recordsOf timeline.id).map .descriptor) <:+: sending.sent := by
  refine ⟨_, emit_open hfinish hback, rfl, ?_⟩
  intro timeline hmem
  rw [Sending.recordsOf_block (Reconciliation.nodup_ids month fed) hmem]
  refine ⟨covers_described (hback timeline hmem) (Reconciliation.ne_nil_of_mem month fed hmem)
    (Reconciliation.pairwise_published_of_mem month fed hmem), ?_⟩
  obtain ⟨before, after, heq⟩ := List.append_of_mem hmem
  exact ⟨before.flatMap (block finish), after.flatMap (block finish), by simp [heq, block]⟩

/-- One relay publishes twice at one time, the other one again after the month. -/
def repeated : List (Stream × Descriptor) :=
  [(.main, .bare alpha fifthOfMarch .empty), (.main, .bare alpha fifthOfMarch (.ofList [beta])),
    (.main, .bare beta (midnight 4 12) .empty), (.main, .bare beta (midnight 3 10) .empty)]

/-- The last record of the second relay ends before it begins. -/
theorem Timeline.covers_emit_march :
    let month : Month := ⟨12 * 2020 + 2⟩
    let r := Reconciliation.ofCollection month (.addAll {} repeated)
    ∃ finish sending, month.lastInstant = .ok finish ∧
      emit month (fun _ => false) r.timelines = .ok sending ∧
      sending.recordsOf 1 =
        [⟨1, .bare alpha fifthOfMarch .empty, ⟨midnight 3 4, fifthOfMarch⟩⟩,
          ⟨1, .bare alpha fifthOfMarch (.ofList [beta]), ⟨fifthOfMarch, finish⟩⟩] ∧
      sending.recordsOf 2 =
        [⟨2, .bare beta (midnight 3 10) .empty, ⟨midnight 3 9, midnight 4 12⟩⟩,
          ⟨2, .bare beta (midnight 4 12) .empty, ⟨midnight 4 12, finish⟩⟩] ∧
      ∀ timeline ∈ r.timelines, timeline.Covers finish (sending.recordsOf timeline.id) := by
  intro month r
  have hfed : ∀ entry ∈ repeated, ∃ s, entry.2.published.dayBefore = .ok s := by
    intro entry hentry
    rcases List.mem_cons.mp hentry with rfl | hentry
    · exact ⟨midnight 3 4, rfl⟩
    rcases List.mem_cons.mp hentry with rfl | hentry
    · exact ⟨midnight 3 4, rfl⟩
    rcases List.mem_pair.mp hentry with rfl | rfl
    · exact ⟨midnight 4 11, rfl⟩
    · exact ⟨midnight 3 9, rfl⟩
  obtain ⟨last, hlast⟩ : ∃ last, month.lastInstant = .ok last := ⟨_, rfl⟩
  have hback : ∀ timeline ∈ r.timelines, timeline.Backdatable :=
    fun timeline => Reconciliation.backdatable_of_mem month repeated hfed
  have htimelines : r.timelines =
      [⟨alpha, 1, [.bare alpha fifthOfMarch .empty, .bare alpha fifthOfMarch (.ofList [beta])]⟩,
        ⟨beta, 2, [.bare beta (midnight 3 10) .empty, .bare beta (midnight 4 12) .empty]⟩] := by
    cbv
  obtain ⟨sending, hsending, -, hcovers⟩ := Timeline.covers_emit month repeated hlast hback
  refine ⟨last, sending, hlast, hsending, ?_, ?_, fun timeline hmem => (hcovers timeline hmem).1⟩
  all_goals
    cases hsending.symm.trans (emit_open hlast hback)
    rw [htimelines]
    rfl

end RelaySnapshot
