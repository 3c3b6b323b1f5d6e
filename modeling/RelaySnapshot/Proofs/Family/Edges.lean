import RelaySnapshot.Proofs.Family.Derivation
import RelaySnapshot.Proofs.Reconciliation.Timelines

/-!
# The edges of a month

At an instant of the month there is an edge between two relays if the descriptors that are current
then declare each other, and then there is one edge only.
-/

namespace RelaySnapshot

/-- The descriptor of a relay that is valid at an instant lists another relay. -/
def Timeline.DeclaresAt (timeline : Timeline) (month : Month) (other : Fingerprint) (t : Instant) :
    Prop :=
  ∃ intervals, timeline.validity month = .ok intervals ∧
    ∃ p ∈ timeline.descriptors.zip intervals, p.2.contains t = true ∧ p.1.declares other = true

namespace Family

/-! ### Histories of timelines -/

/-- The descriptors of a timeline with the first instants of their times. -/
def dated (timeline : Timeline) : List (Descriptor × Instant) :=
  timeline.descriptors.zip timeline.starts

def historyOf (timeline : Timeline) : History where
  fingerprint := timeline.fingerprint
  id := timeline.id
  declarations := (dated timeline).map fun p => ⟨p.2, p.1.family⟩

section Timeline

variable {month : Month} {finish : Instant} {timeline : Timeline}

theorem ofTimeline_eq_historyOf (hfinish : month.lastInstant = .ok finish)
    (hback : timeline.Backdatable) :
    History.ofTimeline month timeline = .ok (historyOf timeline) := by
  rw [History.ofTimeline, Timeline.validity_eq_intervals hfinish hback]
  refine congrArg (fun declarations => Except.ok (History.mk _ _ declarations)) ?_
  conv_rhs => rw [dated, ← Timeline.map_start_intervals finish timeline.starts]
  rw [List.zip_map_right, List.map_map, ← List.map_uncurry_zip_eq_zipWith]
  rfl

theorem mapM_ofTimeline (hfinish : month.lastInstant = .ok finish) {timelines : List Timeline}
    (hback : ∀ timeline ∈ timelines, timeline.Backdatable) :
    timelines.mapM (History.ofTimeline month) = .ok (timelines.map historyOf) :=
  Timeline.mapM_eq_ok fun timeline hmem => ofTimeline_eq_historyOf hfinish (hback timeline hmem)

theorem map_fst_dated : (dated timeline).map Prod.fst = timeline.descriptors :=
  List.map_fst_zip (by simp)

theorem map_snd_dated : (dated timeline).map Prod.snd = timeline.starts :=
  List.map_snd_zip (by simp)

theorem view_historyOf (timeline : Timeline) (other : Fingerprint) :
    view (historyOf timeline).declarations other =
      (dated timeline).map fun p => (p.2, p.1.declares other) := by
  rw [view, historyOf, List.map_map]
  rfl

theorem declaresAt_iff (hfinish : month.lastInstant = .ok finish)
    (hback : timeline.Backdatable) {other : Fingerprint} {t : Instant} :
    timeline.DeclaresAt month other t ↔
      ∃ d ∈ ((timeline.descriptors.zip (Timeline.intervals finish timeline.starts)).filter
        fun p => p.2.contains t).map Prod.fst, d.declares other = true := by
  rw [Timeline.DeclaresAt, Timeline.validity_eq_intervals hfinish hback]
  constructor
  · rintro ⟨_, ⟨⟩, p, hp, hcontains, hdeclares⟩
    exact ⟨p.1, List.mem_map_of_mem (List.mem_filter.mpr ⟨hp, hcontains⟩), hdeclares⟩
  · rintro ⟨d, hd, hdeclares⟩
    obtain ⟨p, hp, rfl⟩ := List.mem_map.mp hd
    obtain ⟨hp, hcontains⟩ := List.mem_filter.mp hp
    exact ⟨_, rfl, p, hp, hcontains, hdeclares⟩

/-- The state of a declaration is what the descriptor says that is valid. -/
theorem openAt_view_historyOf (hfinish : month.lastInstant = .ok finish)
    (hback : timeline.Backdatable)
    (hsorted : timeline.descriptors.Pairwise fun d e => d.published ≤ e.published)
    {t : Instant} (ht : t < finish) (other : Fingerprint) :
    openAt (view (historyOf timeline).declarations other) t = true ↔
      timeline.DeclaresAt month other t := by
  have hdated : (dated timeline).Pairwise fun p q => p.2 ≤ q.2 := by
    rw [← List.pairwise_map, map_snd_dated]
    exact Timeline.sorted_starts hback hsorted
  have hcurrent := Timeline.filter_contains_intervals ht hdated
  rw [map_fst_dated, map_snd_dated] at hcurrent
  rw [declaresAt_iff hfinish hback, hcurrent, view_historyOf, openAt, openAfter, List.filter_map,
    List.getLast?_map, Option.map_map]
  change (Option.map _ ((dated timeline).filter fun p => p.2 ≤ t).getLast?).getD false = true ↔ _
  cases ((dated timeline).filter fun p => p.2 ≤ t).getLast? with
  | none => simp
  | some p => simp

end Timeline

/-! ### The main statement -/

/-- The edges say of each instant before `finish` which relays declare each other then. -/
structure Exact (month : Month) (finish : Instant) (timelines : List Timeline)
    (family : List FamilyEdge) : Prop where
  one : ∀ a ∈ timelines, ∀ b ∈ timelines, a.id < b.id → ∀ t < finish,
    a.DeclaresAt month b.fingerprint t → b.DeclaresAt month a.fingerprint t →
      family.countP (fun e => e.first = a.id ∧ e.second = b.id ∧ e.time.contains t) = 1
  none : ∀ a ∈ timelines, ∀ b ∈ timelines, a.id < b.id → ∀ t < finish,
    ¬(a.DeclaresAt month b.fingerprint t ∧ b.DeclaresAt month a.fingerprint t) →
      family.countP (fun e => e.first = a.id ∧ e.second = b.id ∧ e.time.contains t) = 0
  extent : ∀ e ∈ family, e.time.start < e.time.stop
  ascending : ∀ e ∈ family, e.first < e.second
  relays : ∀ e ∈ family, e.first ∈ timelines.map (·.id) ∧ e.second ∈ timelines.map (·.id)

open Reconciliation Collection

variable {month : Month} {fed : List (Stream × Descriptor)} {finish : Instant}

theorem ordered_historyOf
    (hback : ∀ timeline ∈ (ofCollection month (addAll {} fed)).timelines, timeline.Backdatable) :
    Ordered ((ofCollection month (addAll {} fed)).timelines.map historyOf) where
  ids := List.pairwise_map.mpr (pairwise_ids month fed)
  fingerprints := by
    rw [List.map_map]
    exact nodup_fingerprints month fed
  starts := by
    intro history hhistory
    obtain ⟨timeline, hmem, rfl⟩ := List.mem_map.mp hhistory
    have hstarts := Timeline.sorted_starts (hback timeline hmem)
      (pairwise_published_of_mem month fed hmem)
    rw [← map_snd_dated] at hstarts
    rw [historyOf, List.map_map]
    exact hstarts

/--
Whatever was fed, at an instant before the end of the month two relays have one edge if they declare
each other and none otherwise; and every edge has an extent and goes from one relay to a later one.
-/
theorem exact_edges (month : Month) (fed : List (Stream × Descriptor)) {finish : Instant}
    (hfinish : month.lastInstant = .ok finish)
    (hback : ∀ timeline ∈ (ofCollection month (addAll {} fed)).timelines, timeline.Backdatable) :
    ∃ histories family,
      (ofCollection month (addAll {} fed)).timelines.mapM (History.ofTimeline month) =
        .ok histories ∧
      edges month histories = .ok family ∧
      Exact month finish (ofCollection month (addAll {} fed)).timelines family := by
  have hordered := ordered_historyOf hback
  refine ⟨_, _, mapM_ofTimeline hfinish hback, by rw [edges, hfinish]; rfl, ?_⟩
  have hmem : ∀ {timeline}, timeline ∈ (ofCollection month (addAll {} fed)).timelines →
      historyOf timeline ∈ (ofCollection month (addAll {} fed)).timelines.map historyOf :=
    fun hmem => List.mem_map_of_mem hmem
  have hopen : ∀ {timeline}, timeline ∈ (ofCollection month (addAll {} fed)).timelines →
      ∀ {t}, t < finish → ∀ other,
        (openAt (view (historyOf timeline).declarations other) t = true ↔
          timeline.DeclaresAt month other t) :=
    fun hmem _ ht other => openAt_view_historyOf hfinish (hback _ hmem)
      (pairwise_published_of_mem month fed hmem) ht other
  have hids : ((ofCollection month (addAll {} fed)).timelines.map historyOf).map (·.id) =
      (ofCollection month (addAll {} fed)).timelines.map (·.id) := List.map_map
  exact {
    one := by
      intro a ha b hb hlt t ht hdeclares hdeclares'
      refine (countP_derive hordered (hmem ha) (hmem hb) hlt ht).trans (if_pos ?_)
      exact Bool.and_eq_true_iff.mpr ⟨(hopen ha ht _).mpr hdeclares, (hopen hb ht _).mpr hdeclares'⟩
    none := by
      intro a ha b hb hlt t ht hnot
      refine (countP_derive hordered (hmem ha) (hmem hb) hlt ht).trans (if_neg ?_)
      intro hboth
      obtain ⟨hdeclares, hdeclares'⟩ := Bool.and_eq_true_iff.mp hboth
      exact hnot ⟨(hopen ha ht _).mp hdeclares, (hopen hb ht _).mp hdeclares'⟩
    extent := fun e he => (mem_derive hordered he).1
    ascending := fun e he => (mem_derive hordered he).2.1
    relays := fun e he => hids ▸ (mem_derive hordered he).2.2 }

/-- The case of two relays that declare each other in March 2020. -/
theorem exact_edges_march :
    let published : Instant := .midnight ⟨2020, 3, 5, by decide, by decide, by decide⟩
    let fed : List (Stream × Descriptor) :=
      [(.main, .bare ⟨1, by decide⟩ published (.ofList [⟨2, by decide⟩])),
        (.main, .bare ⟨2, by decide⟩ published (.ofList [⟨1, by decide⟩]))]
    let month : Month := ⟨12 * 2020 + 2⟩
    let timelines := (ofCollection month (addAll {} fed)).timelines
    ∃ finish histories family, month.lastInstant = .ok finish ∧
      timelines.mapM (History.ofTimeline month) = .ok histories ∧
      edges month histories = .ok family ∧ Exact month finish timelines family := by
  intro published fed month timelines
  have hfed : ∀ entry ∈ fed, ∃ s, entry.2.published.dayBefore = .ok s := by
    intro entry hentry
    refine ⟨.midnight ⟨2020, 3, 4, by decide, by decide, by decide⟩, ?_⟩
    rcases List.mem_pair.mp hentry with rfl | rfl <;> rfl
  obtain ⟨histories, family, hhistories, hfamily, hexact⟩ := exact_edges month fed rfl
    fun timeline => backdatable_of_mem month fed hfed
  exact ⟨_, histories, family, rfl, hhistories, hfamily, hexact⟩

end Family

end RelaySnapshot
