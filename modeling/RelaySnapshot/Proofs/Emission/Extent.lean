import RelaySnapshot.Proofs.Emission.Coverage
import RelaySnapshot.Proofs.Family.Maximal

/-!
# How far records and edges reach

An edge always has an extent. A record has none if its relay has two descriptors that become current
at one instant, or if its descriptor becomes current with the end of the month or later. Nothing
ends after the month but for descriptors that become current after it: one of them is enough for a
record to reach there, an edge needs one of each of its relays.
-/

namespace RelaySnapshot

namespace Timeline

def Late (timeline : Timeline) (finish : Instant) : Prop :=
  ∃ t ∈ timeline.starts, finish < t

/-- Where the time of a record of a relay may have no extent or end after the month. -/
structure Extent (finish : Instant) (timeline : Timeline) (i : Interval) : Prop where
  nonempty : i.start < i.stop ∨ i.start = i.stop ∧ timeline.Repeats i.start ∨
    i.stop = finish ∧ finish ≤ i.start
  bounded : i.stop ≤ finish ∨ timeline.Late finish

theorem mem_intervals {finish : Instant} {starts : List Instant} {i : Interval}
    (hi : i ∈ intervals finish starts) :
    i.stop = finish ∨ [i.start, i.stop].Sublist starts := by
  induction starts with
  | nil => cases hi
  | cons t rest ih =>
      cases rest with
      | nil =>
          rw [List.mem_singleton.mp hi]
          exact .inl rfl
      | cons u rest =>
          rcases List.mem_cons.mp hi with rfl | hi
          · exact .inr (((List.nil_sublist rest).cons_cons u).cons_cons t)
          · exact (ih hi).imp_right fun hsub => hsub.cons t

variable {timeline : Timeline} {finish : Instant} {month : Month}

theorem extent_of_mem_intervals {i : Interval} (hsorted : timeline.starts.Pairwise (· ≤ ·))
    (hi : i ∈ intervals finish timeline.starts) : timeline.Extent finish i := by
  rcases mem_intervals hi with hstop | hsub
  · refine ⟨?_, .inl (hstop ▸ Instant.le_refl finish)⟩
    by_cases hlt : i.start < finish
    · exact .inl (hstop ▸ hlt)
    · exact .inr (.inr ⟨hstop, Instant.not_lt.mp hlt⟩)
  · have hle : i.start ≤ i.stop :=
      List.rel_of_pairwise_cons (hsorted.sublist hsub) (List.mem_singleton_self _)
    constructor
    · by_cases hlt : i.start < i.stop
      · exact .inl hlt
      · have heq := Instant.le_antisymm hle (Instant.not_lt.mp hlt)
        rw [← heq] at hsub
        exact .inr (.inl ⟨heq, hsub⟩)
    · by_cases hbound : i.stop ≤ finish
      · exact .inl hbound
      · have hmem : i.stop ∈ timeline.starts := hsub.subset (by simp)
        exact .inr ⟨i.stop, hmem, Instant.not_le.mp hbound⟩

end Timeline

/-! ### What is sent -/

theorem Sending.ofRecords_subset (closed : RecordKind → Bool) (records : List Record) :
    (ofRecords closed records).sent ⊆ records := by
  induction records with
  | nil => exact List.Subset.refl _
  | cons record records ih =>
      rw [ofRecords]
      split
      · exact List.nil_subset _
      · exact List.cons_subset_cons record ih

namespace Timeline

variable {timeline : Timeline} {finish : Instant} {month : Month}

theorem exists_records_of_mem_emit {closed : RecordKind → Bool} {timelines : List Timeline}
    {sending : Sending} (hsending : emit month closed timelines = .ok sending) {record : Record}
    (hrecord : record ∈ sending.sent) :
    ∃ timeline ∈ timelines, ∃ records, timeline.records month = .ok records ∧
      record ∈ records := by
  -- A timeline after a queue that is closed is not reached: then nothing of it is sent.
  induction timelines generalizing sending with
  | nil =>
      cases hsending
      cases hrecord
  | cons timeline timelines ih =>
      obtain ⟨records, hrecords, hsending⟩ := exists_of_bind_eq_ok hsending
      have hown (hmem : record ∈ (Sending.ofRecords closed records).sent) :
          ∃ other ∈ timeline :: timelines, ∃ records, other.records month = .ok records ∧
            record ∈ records :=
        ⟨timeline, List.mem_cons_self, records, hrecords,
          Sending.ofRecords_subset closed records hmem⟩
      dsimp only at hsending
      split at hsending
      · cases hsending
        exact hown hrecord
      · obtain ⟨later, hlater, hsending⟩ := exists_of_bind_eq_ok hsending
        cases hsending
        rcases List.mem_append.mp hrecord with hrecord | hrecord
        · exact hown hrecord
        · obtain ⟨other, hother, hmem⟩ := ih hlater hrecord
          exact ⟨other, List.mem_cons_of_mem _ hother, hmem⟩

theorem exists_finish_of_records {records : List Record}
    (hrecords : timeline.records month = .ok records) :
    ∃ finish, month.lastInstant = .ok finish ∧ timeline.Backdatable ∧
      records = timeline.block finish := by
  obtain ⟨found, hvalidity, -⟩ := exists_of_bind_eq_ok hrecords
  obtain ⟨finish, hfinish, hback⟩ := exists_finish_of_validity hvalidity
  rw [records_eq_block hfinish hback] at hrecords
  exact ⟨finish, hfinish, hback, (Except.ok.inj hrecords).symm⟩

end Timeline

open Reconciliation Collection Family

/-- Only if both relays change after the end of the month an edge of the two can end there. -/
theorem Family.stop_le_or_late {month : Month} {fed : List (Stream × Descriptor)} {finish : Instant}
    (hback : ∀ timeline ∈ (ofCollection month (addAll {} fed)).timelines, timeline.Backdatable)
    {a b : Timeline} (ha : a ∈ (ofCollection month (addAll {} fed)).timelines)
    (hb : b ∈ (ofCollection month (addAll {} fed)).timelines) {i : Interval}
    (hi : i ∈ shared finish (view (historyOf a).declarations b.fingerprint)
      (view (historyOf b).declarations a.fingerprint)) :
    i.stop ≤ finish ∨ a.Late finish ∧ b.Late finish := by
  by_contra hnot
  rw [not_or, not_and_or] at hnot
  obtain ⟨hlt, hlate⟩ := hnot
  have hviews {timeline : Timeline} {other : Fingerprint} (hlate : ¬timeline.Late finish) :
      ∀ p ∈ view (historyOf timeline).declarations other, p.1 ≤ finish := by
    intro p hp
    refine Instant.not_lt.mp fun hlt => hlate ⟨p.1, ?_, hlt⟩
    rw [← map_fst_view_historyOf timeline other]
    exact List.mem_map_of_mem hp
  exact hlt (stop_le_of_mem_shared (pairwise_view_historyOf hback ha _)
    (pairwise_view_historyOf hback hb _) hi (hlate.imp hviews hviews))

/-- How far the records that were sent and the edges that were derived reach, if any were. -/
theorem extents (month : Month) (fed : List (Stream × Descriptor)) :
    (∀ closed sending,
      Timeline.emit month closed (ofCollection month (addAll {} fed)).timelines = .ok sending →
      ∀ record ∈ sending.sent.filterMap Record.descriptor?,
        ∃ finish, month.lastInstant = .ok finish ∧
          ∃ timeline ∈ (ofCollection month (addAll {} fed)).timelines,
            record.node = timeline.id ∧ timeline.Extent finish record.validity) ∧
    ∀ histories family,
      (ofCollection month (addAll {} fed)).timelines.mapM (History.ofTimeline month) =
        .ok histories →
      edges month histories = .ok family →
      ∀ e ∈ family, ∃ finish, month.lastInstant = .ok finish ∧
        ∃ a ∈ (ofCollection month (addAll {} fed)).timelines,
          ∃ b ∈ (ofCollection month (addAll {} fed)).timelines,
            e.first = a.id ∧ e.second = b.id ∧ e.time.start < e.time.stop ∧
              (e.time.stop ≤ finish ∨ a.Late finish ∧ b.Late finish) := by
  constructor
  · intro closed sending hsending record hrecord
    obtain ⟨sent, hsent, hselect⟩ := List.mem_filterMap.mp hrecord
    obtain ⟨timeline, htimeline, records, hrecords, hmem⟩ :=
      Timeline.exists_records_of_mem_emit hsending hsent
    obtain ⟨finish, hfinish, hback, rfl⟩ := Timeline.exists_finish_of_records hrecords
    have hdescribed : record ∈ timeline.described finish := by
      rw [← Timeline.filterMap_descriptor?_block]
      exact List.mem_filterMap.mpr ⟨sent, hmem, hselect⟩
    have hvalidity : record.validity ∈ Timeline.intervals finish timeline.starts := by
      rw [← Timeline.map_validity_described]
      exact List.mem_map_of_mem hdescribed
    refine ⟨finish, hfinish, timeline, htimeline, Timeline.node_of_mem_described hdescribed, ?_⟩
    exact Timeline.extent_of_mem_intervals
      (Timeline.sorted_starts hback (pairwise_published_of_mem month fed htimeline)) hvalidity
  · intro histories family hhistories hfamily e he
    obtain ⟨finish, hfinish, hback, rfl⟩ := exists_eq_derive hhistories hfamily
    obtain ⟨a, ha, b, hb, -, hfirst, hsecond, htime⟩ := exists_relays_of_mem_derive hback he
    exact ⟨finish, hfinish, a, ha, b, hb, hfirst, hsecond, (mem_overlaps htime).1,
      stop_le_or_late hback ha hb htime⟩

/-- Both relays declare each other in March 2020 and take that back in April. -/
def withdrawn : List (Stream × Descriptor) :=
  [(.main, .bare alpha fifthOfMarch (.ofList [beta])),
    (.main, .bare alpha (midnight 4 10) .empty),
    (.main, .bare beta fifthOfMarch (.ofList [alpha])),
    (.main, .bare beta (midnight 4 12) .empty)]

theorem extents_withdrawn :
    let month : Month := ⟨12 * 2020 + 2⟩
    let timelines := (ofCollection month (addAll {} withdrawn)).timelines
    ∃ sending histories family,
      Timeline.emit month (fun _ => false) timelines = .ok sending ∧
      timelines.mapM (History.ofTimeline month) = .ok histories ∧
      edges month histories = .ok family ∧
      (∀ record ∈ sending.sent.filterMap Record.descriptor?,
        ∃ finish, month.lastInstant = .ok finish ∧ ∃ timeline ∈ timelines,
          record.node = timeline.id ∧ timeline.Extent finish record.validity) ∧
      ∀ e ∈ family, ∃ finish, month.lastInstant = .ok finish ∧
        ∃ a ∈ timelines, ∃ b ∈ timelines, e.first = a.id ∧ e.second = b.id ∧
          e.time.start < e.time.stop ∧
            (e.time.stop ≤ finish ∨ a.Late finish ∧ b.Late finish) := by
  intro month timelines
  have hfed : ∀ entry ∈ withdrawn, ∃ s, entry.2.published.dayBefore = .ok s := by
    intro entry hentry
    rcases List.mem_cons.mp hentry with rfl | hentry
    · exact ⟨midnight 3 4, rfl⟩
    rcases List.mem_cons.mp hentry with rfl | hentry
    · exact ⟨midnight 4 9, rfl⟩
    rcases List.mem_pair.mp hentry with rfl | rfl
    · exact ⟨midnight 3 4, rfl⟩
    · exact ⟨midnight 4 11, rfl⟩
  obtain ⟨last, hlast⟩ : ∃ last, month.lastInstant = .ok last := ⟨_, rfl⟩
  have hback : ∀ timeline ∈ timelines, timeline.Backdatable :=
    fun timeline => backdatable_of_mem month withdrawn hfed
  have hsending := Timeline.emit_open hlast hback
  have hhistories := mapM_ofTimeline hlast hback
  have hfamily : edges month (timelines.map historyOf) =
      .ok (derive last (timelines.map historyOf)) := by rw [edges, hlast]; rfl
  obtain ⟨hrecords, hedges⟩ := extents month withdrawn
  exact ⟨_, _, _, hsending, hhistories, hfamily, hrecords _ _ hsending,
    hedges _ _ hhistories hfamily⟩

/-- In March the edge of the two ends in April, and each has a record that ends before it begins. -/
theorem late_withdrawn :
    let month : Month := ⟨12 * 2020 + 2⟩
    let timelines := (ofCollection month (addAll {} withdrawn)).timelines
    ∃ last, month.lastInstant = .ok last ∧ last < midnight 4 10 ∧
      timelines.mapM (History.ofTimeline month) >>= edges month =
        .ok [⟨1, 2, ⟨midnight 3 4, midnight 4 10⟩⟩] ∧
      (Timeline.emit month (fun _ => false) timelines).map (fun sending =>
          (sending.sent.filterMap Record.descriptor?).map (·.validity)) =
        .ok [⟨midnight 3 4, midnight 4 10⟩, ⟨midnight 4 10, last⟩,
          ⟨midnight 3 4, midnight 4 12⟩, ⟨midnight 4 12, last⟩] :=
  ⟨_, rfl, by decide, by cbv, by cbv⟩

end RelaySnapshot
