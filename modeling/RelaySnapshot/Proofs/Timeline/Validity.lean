import Mathlib.Data.List.Basic
import RelaySnapshot.Proofs.Calendar.Order
import RelaySnapshot.Timeline

/-!
# When a descriptor is current

The times of the descriptors of one relay follow each other without a gap, and an instant before the
end lies in the time of the last descriptor that began by then. Descriptors published at one instant
and descriptors published after the end take no instant away from the others.
-/

namespace RelaySnapshot

theorem exists_of_bind_eq_ok {ε α β : Type} {x : Except ε α} {next : α → Except ε β} {b : β}
    (h : (x >>= next) = .ok b) : ∃ a, x = .ok a ∧ next a = .ok b := by
  cases x with
  | error e => cases h
  | ok a => exact ⟨a, rfl, h⟩

namespace Timeline

/-! ### Intervals between instants -/

@[simp]
theorem length_intervals (finish : Instant) (starts : List Instant) :
    (intervals finish starts).length = starts.length := by
  induction starts with
  | nil => rfl
  | cons t rest ih =>
      cases rest with
      | nil => rfl
      | cons u rest => simpa [intervals] using ih

theorem map_start_intervals (finish : Instant) (starts : List Instant) :
    (intervals finish starts).map (·.start) = starts := by
  induction starts with
  | nil => rfl
  | cons t rest ih =>
      cases rest with
      | nil => rfl
      | cons u rest => simpa [intervals] using ih

theorem isChain_intervals (finish : Instant) (starts : List Instant) :
    (intervals finish starts).IsChain fun i j => i.stop = j.start := by
  induction starts with
  | nil => exact .nil
  | cons t rest ih =>
      cases rest with
      | nil => exact .singleton _
      | cons u rest =>
          cases rest with
          | nil => simp [intervals]
          | cons v rest =>
              simp only [intervals, List.isChain_cons_cons]
              exact ⟨trivial, ih⟩

theorem stop_getLast?_intervals (finish : Instant) (starts : List Instant) :
    ∀ i ∈ (intervals finish starts).getLast?, i.stop = finish := by
  induction starts with
  | nil => simp [intervals]
  | cons t rest ih =>
      cases rest with
      | nil => simp [intervals]
      | cons u rest =>
          cases rest with
          | nil => simp [intervals]
          | cons v rest => simpa [intervals, List.getLast?_cons_cons] using ih

theorem backdated_intervals {t s : Instant} (h : t.dayBefore = .ok s) (finish : Instant)
    (rest : List Instant) :
    backdated (intervals finish (t :: rest)) = .ok (intervals finish (s :: rest)) := by
  cases rest <;> simp [intervals, backdated, h]

section Covering

variable {α : Type} {finish t : Instant}

theorem filter_le_eq_nil {p : α × Instant} {items : List (α × Instant)} (hlt : t < p.2)
    (hsorted : (p :: items).Pairwise fun p q => p.2 ≤ q.2) :
    (p :: items).filter (fun q => q.2 ≤ t) = [] := by
  rw [List.filter_eq_nil_iff]
  intro q hq
  have hle : p.2 ≤ q.2 := by
    rcases List.mem_cons.mp hq with rfl | hq
    · exact Instant.le_refl _
    · exact List.rel_of_pairwise_cons hsorted hq
  simpa using Instant.not_le.mpr (Instant.lt_of_lt_of_le hlt hle)

/-- Of items with their first instants, the one current at an instant is the last begun by then. -/
theorem filter_contains_intervals {items : List (α × Instant)} (ht : t < finish)
    (hsorted : items.Pairwise fun p q => p.2 ≤ q.2) :
    (((items.map Prod.fst).zip (intervals finish (items.map Prod.snd))).filter
      fun p => p.2.contains t).map Prod.fst =
      ((items.filter fun p => p.2 ≤ t).getLast?.map Prod.fst).toList := by
  induction items with
  | nil => rfl
  | cons p items ih =>
      cases items with
      | nil => by_cases hle : p.2 ≤ t <;> simp [intervals, Interval.contains, hle, ht]
      | cons q items =>
          have ih := ih hsorted.of_cons
          change List.map Prod.fst (((p.1, ⟨p.2, q.2⟩) :: ((q :: items).map Prod.fst).zip
            (intervals finish ((q :: items).map Prod.snd))).filter fun p => p.2.contains t) = _
          rw [List.filter_cons, List.filter_cons]
          by_cases hlt : t < q.2
          · -- The later items have not begun.
            rw [filter_le_eq_nil hlt hsorted.of_cons] at ih ⊢
            rw [List.map_eq_nil_iff.mp ih]
            by_cases hle : p.2 ≤ t <;> simp [Interval.contains, hle, hlt]
          · -- The first item is over.
            obtain ⟨later, hlater⟩ : ∃ later,
                (q :: items).filter (fun p => p.2 ≤ t) = q :: later :=
              ⟨_, List.filter_cons_of_pos (by simpa using Instant.not_lt.mp hlt)⟩
            rw [hlater] at ih ⊢
            rw [if_neg (by simp [Interval.contains, hlt]), ih]
            split <;> simp [List.getLast?_cons_cons]

end Covering

/-! ### Timelines -/

/-- The first of the descriptors can be put a day earlier. -/
def Backdatable (timeline : Timeline) : Prop :=
  ∀ d ∈ timeline.descriptors.head?, ∃ s, d.published.dayBefore = .ok s

/-- The first instant of the time of each descriptor. -/
def starts (timeline : Timeline) : List Instant :=
  match timeline.descriptors with
  | [] => []
  | d :: rest =>
    d.published.dayBefore.toOption.getD d.published :: rest.map fun d => d.published

/-- The descriptor that counts at an instant: the last one published by then, else the first. -/
def current? (timeline : Timeline) (t : Instant) : Option Descriptor :=
  (timeline.descriptors.filter fun d => d.published ≤ t).getLast?.or timeline.descriptors.head?

@[simp]
theorem length_starts (timeline : Timeline) :
    timeline.starts.length = timeline.descriptors.length := by
  rw [starts]
  split <;> simp [*]

variable {timeline : Timeline}

theorem Backdatable.starts_eq (hback : timeline.Backdatable) {d : Descriptor}
    {rest : List Descriptor} (hds : timeline.descriptors = d :: rest) :
    ∃ s, d.published.dayBefore = .ok s ∧ timeline.starts = s :: rest.map (·.published) := by
  obtain ⟨s, hs⟩ := hback d (by simp [hds])
  refine ⟨s, hs, ?_⟩
  rw [starts, hds]
  simp [hs, Except.toOption]

theorem validity_eq_intervals {month : Month} {finish : Instant}
    (hfinish : month.lastInstant = .ok finish) (hback : timeline.Backdatable) :
    timeline.validity month = .ok (intervals finish timeline.starts) := by
  rw [validity, hfinish]
  change backdated (intervals finish (timeline.descriptors.map (·.published))) = _
  cases hds : timeline.descriptors with
  | nil => simp [starts, hds, intervals, backdated]
  | cons d rest =>
      obtain ⟨s, hs, hstarts⟩ := hback.starts_eq hds
      rw [hstarts, List.map_cons, backdated_intervals hs]

/-- Where the times of descriptors can be computed, the first of them can be put a day earlier. -/
theorem exists_finish_of_validity {month : Month} {found : List Interval}
    (h : timeline.validity month = .ok found) :
    ∃ finish, month.lastInstant = .ok finish ∧ timeline.Backdatable := by
  obtain ⟨finish, hfinish, h⟩ := exists_of_bind_eq_ok h
  refine ⟨finish, hfinish, fun d hd => ?_⟩
  obtain ⟨rest, hds⟩ := List.head?_eq_some_iff.mp hd
  obtain ⟨first, later, heq, hfirst⟩ : ∃ first later,
      intervals finish (d.published :: rest.map (·.published)) = first :: later ∧
        first.start = d.published := by
    cases rest <;> exact ⟨_, _, rfl, rfl⟩
  rw [hds, List.map_cons, heq] at h
  obtain ⟨s, hs, -⟩ := exists_of_bind_eq_ok h
  exact ⟨s, hfirst ▸ hs⟩

/-- What can be computed for each timeline can be computed for all. -/
theorem mapM_eq_ok {α : Type} {compute : Timeline → Except CalendarError α} {value : Timeline → α}
    {timelines : List Timeline}
    (h : ∀ timeline ∈ timelines, compute timeline = .ok (value timeline)) :
    timelines.mapM compute = .ok (timelines.map value) := by
  induction timelines with
  | nil => rfl
  | cons timeline timelines ih =>
      rw [List.mapM_cons, h timeline List.mem_cons_self,
        ih fun other hmem => h other (List.mem_cons_of_mem _ hmem)]
      rfl

theorem exists_of_mapM_eq_ok {α : Type} {compute : Timeline → Except CalendarError α}
    {timelines : List Timeline} {values : List α} (h : timelines.mapM compute = .ok values) :
    ∀ timeline ∈ timelines, ∃ value, compute timeline = .ok value := by
  induction timelines generalizing values with
  | nil => simp
  | cons timeline timelines ih =>
      rw [List.mapM_cons] at h
      obtain ⟨value, hfirst, h⟩ := exists_of_bind_eq_ok h
      obtain ⟨later, hlater, -⟩ := exists_of_bind_eq_ok h
      intro other hother
      rcases List.mem_cons.mp hother with rfl | hother
      · exact ⟨value, hfirst⟩
      · exact ih hlater other hother

theorem sorted_starts (hback : timeline.Backdatable)
    (hsorted : timeline.descriptors.Pairwise fun d e => d.published ≤ e.published) :
    timeline.starts.Pairwise (· ≤ ·) := by
  cases hds : timeline.descriptors with
  | nil => simp [starts, hds]
  | cons d rest =>
      obtain ⟨s, hs, hstarts⟩ := hback.starts_eq hds
      rw [hds, List.pairwise_cons] at hsorted
      rw [hstarts, List.pairwise_cons]
      refine ⟨?_, List.pairwise_map.mpr hsorted.2⟩
      intro t ht
      obtain ⟨e, he, rfl⟩ := List.mem_map.mp ht
      exact Instant.le_trans (Instant.le_of_lt (Instant.lt_of_dayBefore hs)) (hsorted.1 e he)

/-- The descriptor whose time contains an instant is the one that counts at that instant. -/
theorem filter_contains_zip {finish t s : Instant} (ht : t < finish)
    (hback : timeline.Backdatable)
    (hsorted : timeline.descriptors.Pairwise fun d e => d.published ≤ e.published)
    (hs : s ∈ timeline.starts.head?) (hle : s ≤ t) :
    ((timeline.descriptors.zip (intervals finish timeline.starts)).filter
      fun p => p.2.contains t).map Prod.fst = (timeline.current? t).toList := by
  have hstarts := sorted_starts hback hsorted
  cases hds : timeline.descriptors with
  | nil => simp [starts, hds] at hs
  | cons d rest =>
      obtain ⟨_, -, heq⟩ := hback.starts_eq hds
      rw [heq] at hs hstarts ⊢
      cases Option.some.inj hs
      set items := (d, s) :: rest.map fun e => (e, e.published) with hitems
      have hfst : d :: rest = items.map Prod.fst := by simp [hitems, Function.comp_def]
      have hsnd : s :: rest.map (·.published) = items.map Prod.snd := by simp [hitems]
      rw [hsnd, List.pairwise_map] at hstarts
      rw [hsnd, hfst, filter_contains_intervals ht hstarts, hitems, current?, hds,
        List.filter_cons_of_pos (by simpa using hle), List.filter_map, ← List.getLast?_map,
        List.map_cons, List.map_map, List.filter_cons]
      split <;> simp [Function.comp_def, List.getLast?_cons]

end Timeline

end RelaySnapshot
