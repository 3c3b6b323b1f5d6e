import RelaySnapshot.Proofs.Reconciliation.Timelines

/-!
# Feeds in another order

The sources are read side by side, so what is fed comes in no fixed order. A reconciliation does not
show it: the descriptors of a relay are sorted by their times, and the newest complementary one is
the newest in every order. Only the order of those that a stream has of one relay and of one time
could be seen.
-/

namespace RelaySnapshot

/-- What was fed into a stream, in the order of the feed. -/
def fedInto (fed : List (Stream × Descriptor)) (stream : Stream) : List Descriptor :=
  (fed.filter fun entry => entry.1 = stream).map Prod.snd

/--
Each stream is fed the same descriptors, and those of one relay and one time in the same order.
-/
structure Shuffled (fed fed' : List (Stream × Descriptor)) : Prop where
  perm : ∀ stream, (fedInto fed stream).Perm (fedInto fed' stream)
  ties : ∀ stream fp t,
    (fedInto fed stream).filter (fun d => d.fingerprint = fp ∧ d.published = t) =
      (fedInto fed' stream).filter fun d => d.fingerprint = fp ∧ d.published = t

theorem fedTo_eq_filter (fed : List (Stream × Descriptor)) (stream : Stream) (fp : Fingerprint) :
    fedTo fed stream fp = (fedInto fed stream).filter fun d => d.fingerprint = fp := by
  rw [fedTo, fedInto, List.filter_map, List.filter_filter]
  congr 2
  funext entry
  simp [and_comm]

section Order

variable {fed fed' : List (Stream × Descriptor)}

theorem Shuffled.fedTo_perm (h : Shuffled fed fed') (stream : Stream) (fp : Fingerprint) :
    (fedTo fed stream fp).Perm (fedTo fed' stream fp) := by
  rw [fedTo_eq_filter, fedTo_eq_filter]
  exact (h.perm stream).filter _

theorem Shuffled.filter_fedTo (h : Shuffled fed fed') (stream : Stream) (fp : Fingerprint)
    (t : Instant) :
    (fedTo fed stream fp).filter (fun d => d.published = t) =
      (fedTo fed' stream fp).filter fun d => d.published = t := by
  rw [fedTo_eq_filter, fedTo_eq_filter, List.filter_filter, List.filter_filter]
  simpa only [Bool.decide_and, Bool.and_comm] using h.ties stream fp t

theorem fedInto_append (before after : List (Stream × Descriptor)) (stream : Stream) :
    fedInto (before ++ after) stream = fedInto before stream ++ fedInto after stream := by
  simp [fedInto]

theorem mem_fedInto_singleton {stream other : Stream} {d e : Descriptor} :
    e ∈ fedInto [(stream, d)] other ↔ stream = other ∧ e = d := by
  by_cases hother : stream = other <;> simp [fedInto, hother]

/-- Two descriptors that follow each other may change places unless they are tied. -/
theorem shuffled_swap (before after : List (Stream × Descriptor)) {stream stream' : Stream}
    {d e : Descriptor}
    (huntied : stream = stream' → d.fingerprint = e.fingerprint → d.published ≠ e.published) :
    Shuffled (before ++ ([(stream, d)] ++ [(stream', e)]) ++ after)
      (before ++ ([(stream', e)] ++ [(stream, d)]) ++ after) := by
  refine ⟨fun other => ?_, fun other fp t => ?_⟩
  · have hswap : ([(stream, d)] ++ [(stream', e)]).Perm ([(stream', e)] ++ [(stream, d)]) :=
      List.perm_append_comm
    exact (((hswap.append_left before).append_right after).filter _).map _
  · set tied : Descriptor → Bool := fun d => d.fingerprint = fp ∧ d.published = t with htied
    have hnone : (fedInto [(stream, d)] other).filter tied = [] ∨
        (fedInto [(stream', e)] other).filter tied = [] := by
      by_contra hboth
      rw [not_or] at hboth
      obtain ⟨x, hx⟩ := List.exists_mem_of_ne_nil _ hboth.1
      obtain ⟨y, hy⟩ := List.exists_mem_of_ne_nil _ hboth.2
      rw [List.mem_filter, mem_fedInto_singleton] at hx hy
      obtain ⟨⟨rfl, rfl⟩, hx⟩ := hx
      obtain ⟨⟨rfl, rfl⟩, hy⟩ := hy
      simp only [htied, decide_eq_true_eq] at hx hy
      exact huntied rfl (hx.1.trans hy.1.symm) (hx.2.trans hy.2.symm)
    simp only [fedInto_append, List.filter_append]
    rcases hnone with hnone | hnone <;> simp [hnone]

end Order

/-! ### The newest descriptor -/

theorem Newest.le_published {ds : List Descriptor} {d e : Descriptor} (h : Newest ds (some d))
    (he : e ∈ ds) : e.published ≤ d.published := by
  obtain ⟨before, after, rfl, hbefore, hafter⟩ := h
  rcases List.mem_append.mp he with he | he
  · exact Instant.le_of_lt (hbefore e he)
  · rcases List.mem_cons.mp he with rfl | he
    · exact Instant.le_refl _
    · exact hafter e he

/-- The newest descriptor is the first one of its time. -/
theorem Newest.head?_filter {ds : List Descriptor} {d : Descriptor} (h : Newest ds (some d)) :
    (ds.filter fun e => e.published = d.published).head? = some d := by
  obtain ⟨before, after, rfl, hbefore, -⟩ := h
  have hnone : before.filter (fun e => e.published = d.published) = [] := by
    refine List.filter_eq_nil_iff.mpr fun e he => ?_
    have hlt := hbefore e he
    intro heq
    rw [of_decide_eq_true heq] at hlt
    exact Instant.lt_irrefl _ hlt
  rw [List.filter_append, hnone, List.nil_append, List.filter_cons_of_pos (by simp),
    List.head?_cons]

theorem Newest.eq_of_perm {ds ds' : List Descriptor} {held held' : Option Descriptor}
    (h : Newest ds held) (h' : Newest ds' held') (hperm : ds.Perm ds')
    (hties : ∀ t, ds.filter (fun d => d.published = t) = ds'.filter fun d => d.published = t) :
    held = held' := by
  cases held with
  | none =>
      cases held' with
      | none => rfl
      | some d' =>
          rw [newest_none_iff.mp h] at hperm
          exact absurd (hperm.mem_iff.mpr h'.mem) List.not_mem_nil
  | some d =>
      cases held' with
      | none =>
          rw [newest_none_iff.mp h'] at hperm
          exact absurd (hperm.mem_iff.mp h.mem) List.not_mem_nil
      | some d' =>
          have htime : d.published = d'.published :=
            Instant.le_antisymm (h'.le_published (hperm.mem_iff.mp h.mem))
              (h.le_published (hperm.mem_iff.mpr h'.mem))
          have hhead := h.head?_filter
          rw [hties, htime, h'.head?_filter] at hhead
          exact hhead.symm

/-! ### Maps that differ in their values -/

namespace FingerprintMap

variable {α β : Type}

def map (f : α → β) (m : FingerprintMap α) : FingerprintMap β where
  entries := m.entries.map fun entry => (entry.1, f entry.2)
  ascending := by
    rw [List.map_map]
    exact m.ascending

theorem get?_map (f : α → β) (m : FingerprintMap α) (fp : Fingerprint) :
    (m.map f).get? fp = (m.get? fp).map f := by
  obtain ⟨entries, hascending⟩ := m
  change (entries.map _).lookup fp = (entries.lookup fp).map f
  clear hascending
  induction entries with
  | nil => rfl
  | cons entry rest ih =>
      rw [List.map_cons, lookup_cons_eq, lookup_cons_eq, ih]
      split <;> rfl

end FingerprintMap

namespace Collection

/-- All descriptors of each relay, with the complementary ones taken in some order. -/
def mergedAlong (c : Collection) (visited : List (Fingerprint × Descriptor)) :
    FingerprintMap (List Descriptor) :=
  extend (extend c.main (visited.map fun (fp, d) => (fp, [d]))) c.recent.entries

theorem mergedAlong_eq_merged (c : Collection) {visited : List (Fingerprint × Descriptor)}
    (hvisited : visited.Perm c.complementary.entries) : c.mergedAlong visited = c.merged :=
  extend_extend_eq_merged c hvisited (.refl _)

end Collection

namespace Reconciliation

open FingerprintMap Collection

/-- Takes in the relays of a map, one after the other. -/
def ofMerged (month : Month) (m : FingerprintMap (List Descriptor)) : Reconciliation :=
  m.entries.foldl (fun r (fingerprint, ds) => r.enroll fingerprint ds) { month }

theorem sortedByTime_sortedByTime (ds : List Descriptor) :
    sortedByTime (sortedByTime ds) = sortedByTime ds :=
  Instant.sortBy_congr _ (Instant.stablySorted_sortBy _ ds).stable

/-- A reconciliation sees of a relay what is left after sorting. -/
theorem ofMerged_map_sortedByTime (month : Month) (m : FingerprintMap (List Descriptor)) :
    ofMerged month (m.map sortedByTime) = ofMerged month m := by
  rw [ofMerged, ofMerged, FingerprintMap.map, List.foldl_map]
  congr 1
  funext r entry
  simp only [enroll, sortedByTime_sortedByTime]

section Order

variable {fed fed' : List (Stream × Descriptor)}

theorem filter_held_merged (h : Shuffled fed fed') (fp : Fingerprint) (t : Instant) :
    ((addAll {} fed).merged.held fp).filter (fun d => d.published = t) =
      ((addAll {} fed').merged.held fp).filter fun d => d.published = t := by
  have hnewest : (addAll {} fed).complementary.get? fp = (addAll {} fed').complementary.get? fp :=
    ((holds_addAll fed).complementary fp).eq_of_perm ((holds_addAll fed').complementary fp)
      (h.fedTo_perm .complementary fp) (h.filter_fedTo .complementary fp)
  rw [held_merged_addAll, held_merged_addAll, hnewest]
  simp only [List.filter_append, h.filter_fedTo]

theorem isSome_get?_merged_iff (h : Shuffled fed fed') (fp : Fingerprint) :
    ((addAll {} fed).merged.get? fp).isSome ↔ ((addAll {} fed').merged.get? fp).isSome := by
  rw [isSome_get?_merged_addAll, isSome_get?_merged_addAll]
  refine exists_congr fun stream => not_congr ?_
  rw [← List.length_eq_zero_iff, ← List.length_eq_zero_iff, (h.fedTo_perm stream fp).length_eq]

/-- In the order of time the relays have the same descriptors. -/
theorem map_sortedByTime_merged (h : Shuffled fed fed') :
    (addAll {} fed).merged.map sortedByTime = (addAll {} fed').merged.map sortedByTime := by
  refine ext_get? fun fp => ?_
  have hsorted : sortedByTime ((addAll {} fed).merged.held fp) =
      sortedByTime ((addAll {} fed').merged.held fp) :=
    Instant.sortBy_congr _ (filter_held_merged h fp)
  have hsome := isSome_get?_merged_iff h fp
  rw [get?_map, get?_map]
  rw [held, held] at hsorted
  cases hget : (addAll {} fed).merged.get? fp with
  | none =>
      rw [hget] at hsome
      rw [Option.not_isSome_iff_eq_none.mp (mt hsome.mpr (by simp))]
  | some ds =>
      rw [hget] at hsome
      obtain ⟨ds', hget'⟩ := Option.isSome_iff_exists.mp (hsome.mp rfl)
      rw [hget, hget'] at hsorted
      rw [hget', Option.map_some, Option.map_some, Option.some_inj]
      exact hsorted

theorem ofMerged_merged_eq (month : Month) (h : Shuffled fed fed') :
    ofMerged month (addAll {} fed).merged = ofMerged month (addAll {} fed').merged := by
  rw [← ofMerged_map_sortedByTime, map_sortedByTime_merged h, ofMerged_map_sortedByTime]

end Order

/--
Whatever the order in which the readers of the sources come, and in whatever order the complementary
relays are visited, the reconciliation is the same.
-/
theorem ofCollection_eq_of_shuffled (month : Month) {fed fed' : List (Stream × Descriptor)}
    (hshuffled : Shuffled fed fed') :
    ofCollection month (addAll {} fed) = ofCollection month (addAll {} fed') ∧
      ∀ visited visited', visited.Perm (addAll {} fed).complementary.entries →
        visited'.Perm (addAll {} fed').complementary.entries →
        ofMerged month ((addAll {} fed).mergedAlong visited) =
          ofMerged month ((addAll {} fed').mergedAlong visited') := by
  have heq := ofMerged_merged_eq month hshuffled
  refine ⟨heq, fun visited visited' hvisited hvisited' => ?_⟩
  rw [mergedAlong_eq_merged _ hvisited, mergedAlong_eq_merged _ hvisited', heq]

/-- Two relays whose newest descriptors change places between their older ones and recent ones. -/
theorem ofCollection_eq_of_shuffled_march :
    let t : Instant := .midnight ⟨2020, 3, 5, by decide, by decide, by decide⟩
    let u : Instant := .midnight ⟨2020, 3, 6, by decide, by decide, by decide⟩
    let d : Stream × Descriptor := (.complementary, .bare ⟨1, by decide⟩ t .empty)
    let e : Stream × Descriptor := (.complementary, .bare ⟨1, by decide⟩ u .empty)
    let before : List (Stream × Descriptor) := [(.main, .bare ⟨2, by decide⟩ t .empty)]
    let after : List (Stream × Descriptor) := [(.recent, .bare ⟨1, by decide⟩ t .empty)]
    ofCollection ⟨12 * 2020 + 2⟩ (addAll {} (before ++ ([d] ++ [e]) ++ after)) =
      ofCollection ⟨12 * 2020 + 2⟩ (addAll {} (before ++ ([e] ++ [d]) ++ after)) := by
  intro t u d e before after
  exact (ofCollection_eq_of_shuffled ⟨12 * 2020 + 2⟩ (shuffled_swap before after
    fun _ _ => (by decide : t ≠ u))).1

end Reconciliation

end RelaySnapshot
