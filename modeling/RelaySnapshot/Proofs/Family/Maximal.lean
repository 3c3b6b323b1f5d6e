import Mathlib
import RelaySnapshot.Proofs.Family.Edges
import RelaySnapshot.Proofs.Family.Stretches

/-!
# Edges cannot be extended

An edge ends with the month or where one of its relays no longer declares the other, and the next
edge of the two begins later. Only where a relay has two descriptors that become current at one
instant it may cease and declare again without any time in between, so that two edges touch.
-/

namespace RelaySnapshot

namespace Timeline

/-- Two descriptors of a relay become current at one instant. -/
def Repeats (timeline : Timeline) (t : Instant) : Prop :=
  [t, t].Sublist timeline.starts

/-- The last descriptor of a relay that has become current by an instant lists another relay. -/
def LastDeclares (timeline : Timeline) (other : Fingerprint) (t : Instant) : Prop :=
  ∃ p ∈ ((timeline.descriptors.zip timeline.starts).filter fun p => p.2 ≤ t).getLast?,
    p.1.declares other = true

end Timeline

namespace Family

section Timeline

variable {timeline : Timeline} {other : Fingerprint} {t : Instant}

theorem openAt_iff_lastDeclares :
    openAt (view (historyOf timeline).declarations other) t = true ↔
      timeline.LastDeclares other t := by
  rw [view_historyOf, openAt, openAfter, List.filter_map, List.getLast?_map, Option.map_map,
    Timeline.LastDeclares, ← dated]
  change (Option.map _ ((dated timeline).filter fun p => p.2 ≤ t).getLast?).getD false = true ↔ _
  cases ((dated timeline).filter fun p => p.2 ≤ t).getLast? with
  | none => simp
  | some p => simp

theorem map_fst_view_historyOf (timeline : Timeline) (other : Fingerprint) :
    (view (historyOf timeline).declarations other).map Prod.fst = timeline.starts := by
  rw [view_historyOf, List.map_map]
  exact map_snd_dated

end Timeline

/-- The edges of two relays end where they have to, and are apart from each other. -/
structure Maximal (finish : Instant) (a b : Timeline) (edges : List FamilyEdge) : Prop where
  stops : ∀ e ∈ edges, ¬a.Repeats e.time.stop → ¬b.Repeats e.time.stop →
    e.time.stop = finish ∨
      ¬(a.LastDeclares b.fingerprint e.time.stop ∧ b.LastDeclares a.fingerprint e.time.stop)
  apart : edges.Pairwise fun e e' => e.time.stop < e'.time.start ∨
    e.time.stop = e'.time.start ∧ (a.Repeats e.time.stop ∨ b.Repeats e.time.stop)

open Reconciliation Collection

variable {month : Month} {fed : List (Stream × Descriptor)} {finish : Instant}

theorem maximal_shared {a b : Timeline}
    (ha : (view (historyOf a).declarations b.fingerprint).Pairwise fun p q => p.1 ≤ q.1)
    (hb : (view (historyOf b).declarations a.fingerprint).Pairwise fun p q => p.1 ≤ q.1) :
    Maximal finish a b
      ((shared finish (view (historyOf a).declarations b.fingerprint)
        (view (historyOf b).declarations a.fingerprint)).map fun time => ⟨a.id, b.id, time⟩) where
  stops := by
    intro e he honce honce'
    obtain ⟨time, htime, rfl⟩ := List.mem_map.mp he
    rw [Timeline.Repeats, ← map_fst_view_historyOf a b.fingerprint] at honce
    rw [Timeline.Repeats, ← map_fst_view_historyOf b a.fingerprint] at honce'
    rw [← openAt_iff_lastDeclares, ← openAt_iff_lastDeclares]
    refine (stop_of_mem_shared htime).imp_right fun hceases => ?_
    rcases hceases with hceases | hceases
    · simp [openAt_eq_false ha hceases honce]
    · simp [openAt_eq_false hb hceases honce']
  apart := by
    rw [List.pairwise_map]
    have happart := pairwise_shared finish ha hb
    rw [map_fst_view_historyOf, map_fst_view_historyOf] at happart
    exact happart

theorem backdatable_of_mapM {timelines : List Timeline} {histories : List History}
    (h : timelines.mapM (History.ofTimeline month) = .ok histories) :
    ∀ timeline ∈ timelines, timeline.Backdatable := by
  intro timeline hmem
  obtain ⟨history, hhistory⟩ := Timeline.exists_of_mapM_eq_ok h timeline hmem
  obtain ⟨found, hvalidity, -⟩ := exists_of_bind_eq_ok hhistory
  obtain ⟨-, -, hback⟩ := Timeline.exists_finish_of_validity hvalidity
  exact hback

theorem exists_eq_derive {timelines : List Timeline} {histories : List History}
    {family : List FamilyEdge}
    (hhistories : timelines.mapM (History.ofTimeline month) = .ok histories)
    (hfamily : edges month histories = .ok family) :
    ∃ finish, month.lastInstant = .ok finish ∧
      (∀ timeline ∈ timelines, timeline.Backdatable) ∧
      family = derive finish (timelines.map historyOf) := by
  have hback := backdatable_of_mapM hhistories
  obtain ⟨finish, hfinish, hderived⟩ := exists_of_bind_eq_ok hfamily
  rw [mapM_ofTimeline hfinish hback] at hhistories
  cases hhistories
  exact ⟨finish, hfinish, hback, (Except.ok.inj hderived).symm⟩

theorem filter_derive_historyOf
    (hback : ∀ timeline ∈ (ofCollection month (addAll {} fed)).timelines, timeline.Backdatable)
    {a b : Timeline} (ha : a ∈ (ofCollection month (addAll {} fed)).timelines)
    (hb : b ∈ (ofCollection month (addAll {} fed)).timelines) (hlt : a.id < b.id) :
    (derive finish ((ofCollection month (addAll {} fed)).timelines.map historyOf)).filter
        (fun e => e.first = a.id ∧ e.second = b.id) =
      (shared finish (view (historyOf a).declarations b.fingerprint)
        (view (historyOf b).declarations a.fingerprint)).map fun time => ⟨a.id, b.id, time⟩ :=
  filter_derive (ordered_historyOf hback) (List.mem_map_of_mem ha) (List.mem_map_of_mem hb) hlt

theorem exists_relays_of_mem_derive
    (hback : ∀ timeline ∈ (ofCollection month (addAll {} fed)).timelines, timeline.Backdatable)
    {e : FamilyEdge}
    (he : e ∈ derive finish ((ofCollection month (addAll {} fed)).timelines.map historyOf)) :
    ∃ a ∈ (ofCollection month (addAll {} fed)).timelines,
      ∃ b ∈ (ofCollection month (addAll {} fed)).timelines, a.id < b.id ∧ e.first = a.id ∧
        e.second = b.id ∧ e.time ∈ shared finish (view (historyOf a).declarations b.fingerprint)
          (view (historyOf b).declarations a.fingerprint) := by
  obtain ⟨-, hlt, hfirst, hsecond⟩ := mem_derive (ordered_historyOf hback) he
  rw [List.map_map] at hfirst hsecond
  obtain ⟨a, ha, hfirst⟩ := List.mem_map.mp hfirst
  obtain ⟨b, hb, hsecond⟩ := List.mem_map.mp hsecond
  replace hfirst : e.first = a.id := hfirst.symm
  replace hsecond : e.second = b.id := hsecond.symm
  rw [hfirst, hsecond] at hlt
  have hmem : e ∈ (derive finish
      ((ofCollection month (addAll {} fed)).timelines.map historyOf)).filter
        (fun e => e.first = a.id ∧ e.second = b.id) :=
    List.mem_filter.mpr ⟨he, decide_eq_true ⟨hfirst, hsecond⟩⟩
  rw [filter_derive_historyOf hback ha hb hlt] at hmem
  obtain ⟨time, htime, rfl⟩ := List.mem_map.mp hmem
  exact ⟨a, ha, b, hb, hlt, hfirst, hsecond, htime⟩

theorem pairwise_view_historyOf
    (hback : ∀ timeline ∈ (ofCollection month (addAll {} fed)).timelines, timeline.Backdatable)
    {timeline : Timeline} (hmem : timeline ∈ (ofCollection month (addAll {} fed)).timelines)
    (other : Fingerprint) :
    (view (historyOf timeline).declarations other).Pairwise fun p q => p.1 ≤ q.1 :=
  (ordered_historyOf hback).view (List.mem_map_of_mem hmem) other

theorem maximal_edges (month : Month) (fed : List (Stream × Descriptor))
    {histories : List History} {family : List FamilyEdge}
    (hhistories : (ofCollection month (addAll {} fed)).timelines.mapM (History.ofTimeline month) =
      .ok histories)
    (hfamily : edges month histories = .ok family) :
    ∃ finish, month.lastInstant = .ok finish ∧
      (∀ e ∈ family, ∃ a ∈ (ofCollection month (addAll {} fed)).timelines,
        ∃ b ∈ (ofCollection month (addAll {} fed)).timelines, e.first = a.id ∧ e.second = b.id) ∧
      ∀ a ∈ (ofCollection month (addAll {} fed)).timelines,
        ∀ b ∈ (ofCollection month (addAll {} fed)).timelines,
          Maximal finish a b (family.filter fun e => e.first = a.id ∧ e.second = b.id) := by
  obtain ⟨finish, hfinish, hback, rfl⟩ := exists_eq_derive hhistories hfamily
  refine ⟨finish, hfinish, fun e he => ?_, fun a ha b hb => ?_⟩
  · obtain ⟨a, ha, b, hb, -, hfirst, hsecond, -⟩ := exists_relays_of_mem_derive hback he
    exact ⟨a, ha, b, hb, hfirst, hsecond⟩
  · by_cases hlt : a.id < b.id
    · rw [filter_derive_historyOf hback ha hb hlt]
      exact maximal_shared (pairwise_view_historyOf hback ha _)
        (pairwise_view_historyOf hback hb _)
    · -- The first relay of an edge has the lower number, so the two have no edge.
      rw [List.filter_eq_nil_iff.mpr]
      · exact ⟨fun e he => absurd he List.not_mem_nil, .nil⟩
      · intro e he hids
        obtain ⟨hfirst, hsecond⟩ := of_decide_eq_true hids
        exact hlt (hfirst ▸ hsecond ▸ (mem_derive (ordered_historyOf hback) he).2.1)

/-- The case of a relay that takes its family back for two days. -/
theorem maximal_edges_march :
    let month : Month := ⟨12 * 2020 + 2⟩
    let fed : List (Stream × Descriptor) := [(.main, .bare alpha fifthOfMarch (.ofList [beta])),
      (.main, .bare alpha (midnight 3 10) .empty),
      (.main, .bare alpha (midnight 3 12) (.ofList [beta])),
      (.main, .bare beta fifthOfMarch (.ofList [alpha]))]
    let timelines := (ofCollection month (addAll {} fed)).timelines
    ∃ finish histories family, month.lastInstant = .ok finish ∧
      timelines.mapM (History.ofTimeline month) = .ok histories ∧
      edges month histories = .ok family ∧
      family = [⟨1, 2, ⟨midnight 3 4, midnight 3 10⟩⟩, ⟨1, 2, ⟨midnight 3 12, finish⟩⟩] ∧
      ∀ a ∈ timelines, ∀ b ∈ timelines,
        Maximal finish a b (family.filter fun e => e.first = a.id ∧ e.second = b.id) := by
  intro month fed timelines
  obtain ⟨last, hlast⟩ : ∃ last, month.lastInstant = .ok last := ⟨_, rfl⟩
  have hderived : timelines.mapM (History.ofTimeline month) >>= edges month = .ok
      [⟨1, 2, ⟨midnight 3 4, midnight 3 10⟩⟩, ⟨1, 2, ⟨midnight 3 12, last⟩⟩] := by
    cases hlast
    cbv
  obtain ⟨histories, hhistories, hfamily⟩ := exists_of_bind_eq_ok hderived
  obtain ⟨finish, hfinish, -, hmaximal⟩ := maximal_edges month fed hhistories hfamily
  cases hlast.symm.trans hfinish
  exact ⟨last, histories, _, hlast, hhistories, hfamily, rfl, hmaximal⟩

/-! ### Edges that touch -/

/-- A relay takes its family back and declares it again at one instant. -/
def restated : List (Stream × Descriptor) :=
  [(.main, .bare alpha fifthOfMarch (.ofList [beta])),
    (.main, .bare alpha (midnight 3 10) .empty),
    (.main, .bare alpha (midnight 3 10) (.ofList [beta])),
    (.main, .bare beta fifthOfMarch (.ofList [alpha]))]

/-- Two edges touch although both relays declare each other where the first one ends. -/
theorem touching_edges_restated :
    let month : Month := ⟨12 * 2020 + 2⟩
    let timelines := (ofCollection month (addAll {} restated)).timelines
    ∃ last, month.lastInstant = .ok last ∧ midnight 3 10 < last ∧
      timelines.mapM (History.ofTimeline month) >>= edges month =
        .ok [⟨1, 2, ⟨midnight 3 4, midnight 3 10⟩⟩, ⟨1, 2, ⟨midnight 3 10, last⟩⟩] ∧
      ∀ a ∈ timelines, ∀ b ∈ timelines, a.id ≠ b.id →
        a.LastDeclares b.fingerprint (midnight 3 10) := by
  refine ⟨_, rfl, by decide, by cbv, fun a ha b hb hne => ?_⟩
  have hopen : (ofCollection ⟨12 * 2020 + 2⟩ (addAll {} restated)).timelines.all (fun a =>
      (ofCollection ⟨12 * 2020 + 2⟩ (addAll {} restated)).timelines.all fun b => a.id == b.id ||
        openAt (view (historyOf a).declarations b.fingerprint) (midnight 3 10)) = true := by
    cbv
  have hab := List.all_eq_true.mp (List.all_eq_true.mp hopen a ha) b hb
  simp only [Bool.or_eq_true, beq_iff_eq] at hab
  exact openAt_iff_lastDeclares.mp (hab.resolve_left hne)

end Family

end RelaySnapshot
