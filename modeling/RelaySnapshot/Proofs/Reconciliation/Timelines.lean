import Mathlib.Algebra.BigOperators.Group.Finset.Piecewise
import RelaySnapshot.Proofs.Calendar.Sorting
import RelaySnapshot.Proofs.Reconciliation.Collecting
import RelaySnapshot.Proofs.Timeline.Validity

/-!
# What a feed is reconciled to

A reconciliation takes in the relays of a collection one after the other. Each step appends one
timeline, one number and the addresses that are new; what a whole run of steps leaves behind follows
by induction, and with the contents of the collection it gives the main statement: no descriptor is
lost, invented or put into the wrong place.
-/

namespace RelaySnapshot

namespace Reconciliation

open FingerprintMap Collection

/-! ### One relay after the other -/

theorem eraseDups_concat (addresses : List Address) (address : Address) :
    (addresses ++ [address]).eraseDups = see addresses.eraseDups address := by
  rw [List.eraseDups_append, see]
  by_cases hmem : address ∈ addresses
  · rw [if_pos (List.mem_eraseDups.mpr hmem)]
    simp [List.removeAll, hmem]
  · rw [if_neg (mt List.mem_eraseDups.mp hmem)]
    simp [List.removeAll, hmem, List.eraseDups_cons]

/-- Seeing addresses one by one keeps the first of each. -/
theorem foldl_see (before addresses : List Address) :
    addresses.foldl see before.eraseDups = (before ++ addresses).eraseDups := by
  induction addresses using List.reverseRecOn with
  | nil => simp
  | append_singleton addresses address ih =>
      rw [List.foldl_append, ih, ← List.append_assoc, eraseDups_concat]
      rfl

/-- The addresses of timelines as they are met from the first timeline to the last. -/
def walk (timelines : List Timeline) : List Address :=
  timelines.flatMap fun timeline => timeline.descriptors.map (·.address)

/-- What there is after the relays of some entries have been taken in. -/
structure Enrolled (month : Month) (entries : List (Fingerprint × List Descriptor))
    (r : Reconciliation) : Prop where
  month_eq : r.month = month
  timelines : r.timelines.map (fun timeline => (timeline.fingerprint, timeline.descriptors)) =
    entries.map fun entry => (entry.1, sortedByTime entry.2)
  numbers : r.timelines.map (·.id) = (List.range' 1 entries.length).map Int.ofNat
  id?_of_mem : ∀ timeline ∈ r.timelines, r.id? timeline.fingerprint = some timeline.id
  id?_eq_none : ∀ fp, fp ∉ entries.map Prod.fst → r.id? fp = none
  addresses : r.addresses = (walk r.timelines).eraseDups

theorem Enrolled.fingerprints {month : Month} {entries : List (Fingerprint × List Descriptor)}
    {r : Reconciliation} (h : Enrolled month entries r) :
    r.timelines.map (·.fingerprint) = entries.map Prod.fst := by
  have hfst := congrArg (List.map Prod.fst) h.timelines
  rwa [List.map_map, List.map_map] at hfst

/-- Taking in a relay that has not been taken in before. -/
theorem Enrolled.enroll {month : Month} {entries : List (Fingerprint × List Descriptor)}
    {r : Reconciliation} (h : Enrolled month entries r) (fp : Fingerprint) (ds : List Descriptor)
    (hnew : fp ∉ entries.map Prod.fst) :
    Enrolled month (entries ++ [(fp, ds)]) (r.enroll fp ds) := by
  have hlength : r.timelines.length = entries.length := by
    simpa using congrArg List.length h.timelines
  have hid : ∀ other, (r.enroll fp ds).id? other =
      if other = fp then some (r.timelines.length + 1 : Int) else r.id? other :=
    fun other => get?_alter r.ids fp other _
  refine ⟨h.month_eq, ?_, ?_, ?_, ?_, ?_⟩
  · rw [Reconciliation.enroll, List.map_append, h.timelines, List.map_append]
    rfl
  · rw [Reconciliation.enroll, List.map_append, h.numbers, List.length_append,
      List.length_singleton, List.range'_concat, List.map_append, hlength]
    simp [add_comm]
  · intro timeline hmem
    rw [hid]
    rcases List.mem_append.mp hmem with hmem | hmem
    · have hold : timeline.fingerprint ∈ entries.map Prod.fst :=
        h.fingerprints ▸ List.mem_map_of_mem hmem
      rw [if_neg (ne_of_mem_of_not_mem hold hnew)]
      exact h.id?_of_mem timeline hmem
    · cases List.mem_singleton.mp hmem
      rw [if_pos rfl]
  · intro other hother
    rw [List.map_append, List.mem_append, not_or] at hother
    rw [hid, if_neg (by simpa using hother.2)]
    exact h.id?_eq_none other hother.1
  · rw [Reconciliation.enroll, h.addresses, foldl_see, walk, walk, List.flatMap_append]
    simp

/-- Taking in relays that differ from one another. -/
theorem enrolled_foldl (month : Month) (entries : List (Fingerprint × List Descriptor))
    (hnodup : (entries.map Prod.fst).Nodup) :
    Enrolled month entries
      (entries.foldl (fun r (fingerprint, ds) => r.enroll fingerprint ds) { month }) := by
  induction entries using List.reverseRecOn with
  | nil => exact ⟨rfl, rfl, rfl, by simp, fun _ _ => rfl, rfl⟩
  | append_singleton entries entry ih =>
      rw [List.map_append, List.nodup_append] at hnodup
      obtain ⟨hold, _, hdisjoint⟩ := hnodup
      have hnew : entry.1 ∉ entries.map Prod.fst :=
        fun hmem => hdisjoint entry.1 hmem entry.1 (by simp) rfl
      rw [List.foldl_append]
      exact (ih hold).enroll entry.1 entry.2 hnew

theorem enrolled_ofCollection (month : Month) (c : Collection) :
    Enrolled month c.merged.entries (ofCollection month c) :=
  enrolled_foldl month c.merged.entries c.merged.nodup_keys

theorem Enrolled.mem_entries {month : Month} {entries : List (Fingerprint × List Descriptor)}
    {r : Reconciliation} (h : Enrolled month entries r) {timeline : Timeline}
    (hmem : timeline ∈ r.timelines) :
    ∃ ds, (timeline.fingerprint, ds) ∈ entries ∧ timeline.descriptors = sortedByTime ds := by
  have hpair : (timeline.fingerprint, timeline.descriptors) ∈
      entries.map fun entry => (entry.1, sortedByTime entry.2) :=
    h.timelines ▸ List.mem_map_of_mem hmem
  obtain ⟨entry, hentry, heq⟩ := List.mem_map.mp hpair
  obtain ⟨hfp, hds⟩ := Prod.mk.inj heq
  exact ⟨entry.2, hfp ▸ hentry, hds.symm⟩

/-! ### Counting descriptors -/

/-- The relays of the descriptors that were fed into a stream, as often as they were fed. -/
def relaysOf (fed : List (Stream × Descriptor)) (stream : Stream) : List Fingerprint :=
  (fed.filter fun entry => entry.1 = stream).map fun entry => entry.2.fingerprint

theorem length_fedTo (fed : List (Stream × Descriptor)) (stream : Stream) (fp : Fingerprint) :
    (fedTo fed stream fp).length = (relaysOf fed stream).count fp := by
  rw [fedTo, List.length_map, relaysOf, List.count, List.countP_map, List.countP_filter,
    List.countP_eq_length_filter]
  congr 2
  funext entry
  simp [and_comm, Bool.beq_eq_decide_eq]

theorem fedTo_ne_nil_iff {fed : List (Stream × Descriptor)} {stream : Stream} {fp : Fingerprint} :
    fedTo fed stream fp ≠ [] ↔ fp ∈ relaysOf fed stream := by
  rw [← List.length_pos_iff, length_fedTo, List.count_pos_iff]

/-- Keys that differ and cover a list count each of its members once. -/
theorem sum_count_eq_length {keys l : List Fingerprint} (hnodup : keys.Nodup)
    (hcover : ∀ fp ∈ l, fp ∈ keys) : (keys.map fun fp => l.count fp).sum = l.length := by
  rw [← List.sum_toFinset _ hnodup]
  have hcard := Multiset.sum_count_eq_card (s := keys.toFinset) (m := (l : Multiset Fingerprint))
    (by simpa using hcover)
  simpa using hcard

theorem sum_mem_eq_card {keys l : List Fingerprint} (hnodup : keys.Nodup)
    (hcover : ∀ fp ∈ l, fp ∈ keys) :
    (keys.map fun fp => if fp ∈ l then 1 else 0).sum = l.toFinset.card := by
  rw [← List.sum_toFinset _ hnodup, ← Finset.card_filter]
  congr 1
  ext fp
  simpa using hcover fp

/-! ### The main statement -/

/--
What a reconciliation is to its feed. The timeline of a relay is made of its main descriptors, then
its newest complementary one, then its recent ones, all sorted by time.
-/
structure Reconciles (month : Month) (fed : List (Stream × Descriptor)) (r : Reconciliation) :
    Prop where
  month_eq : r.month = month
  mem_fingerprints : ∀ fp, fp ∈ r.timelines.map (·.fingerprint) ↔
    ∃ entry ∈ fed, entry.2.fingerprint = fp
  ascending : (r.timelines.map (·.fingerprint)).Pairwise (· < ·)
  numbers : r.timelines.map (·.id) = (List.range' 1 r.timelines.length).map Int.ofNat
  sorted : ∀ timeline ∈ r.timelines, ∃ newest,
    Newest (fedTo fed .complementary timeline.fingerprint) newest ∧
    StablySorted Descriptor.published
      (fedTo fed .main timeline.fingerprint ++ newest.toList ++
        fedTo fed .recent timeline.fingerprint) timeline.descriptors
  id?_of_mem : ∀ timeline ∈ r.timelines, r.id? timeline.fingerprint = some timeline.id
  id?_eq_none : ∀ fp, fp ∉ r.timelines.map (·.fingerprint) → r.id? fp = none
  size_ids : r.ids.size = r.timelines.length
  addresses : r.addresses = (walk r.timelines).eraseDups
  ne_nil : ∀ timeline ∈ r.timelines, timeline.descriptors ≠ []
  own : ∀ timeline ∈ r.timelines, ∀ d ∈ timeline.descriptors,
    d.fingerprint = timeline.fingerprint
  total : (r.timelines.map fun timeline => timeline.descriptors.length).sum =
    fed.countP (fun entry => entry.1 = .main) + (relaysOf fed .complementary).toFinset.card +
      fed.countP fun entry => entry.1 = .recent

section Feed

variable (month : Month) (fed : List (Stream × Descriptor))

/-- A relay is in the merged collection if it was fed into some stream. -/
theorem isSome_get?_merged_addAll (fp : Fingerprint) :
    ((addAll {} fed).merged.get? fp).isSome ↔ ∃ stream, fedTo fed stream fp ≠ [] := by
  have hholds := holds_addAll fed
  have hcomplementary : ((addAll {} fed).complementary.get? fp).isSome ↔
      fedTo fed .complementary fp ≠ [] := by
    have hnewest := hholds.complementary fp
    cases hget : (addAll {} fed).complementary.get? fp with
    | none =>
        rw [hget, newest_none_iff] at hnewest
        simpa using hnewest
    | some d =>
        rw [hget] at hnewest
        simpa using List.ne_nil_of_mem hnewest.mem
  rw [isSome_get?_merged, (hholds.main fp).2, hcomplementary, (hholds.recent fp).2]
  constructor
  · rintro (h | h | h)
    exacts [⟨.main, h⟩, ⟨.complementary, h⟩, ⟨.recent, h⟩]
  · rintro ⟨stream, h⟩
    cases stream with
    | main => exact .inl h
    | complementary => exact .inr (.inl h)
    | recent => exact .inr (.inr h)

theorem held_merged_addAll (fp : Fingerprint) :
    (addAll {} fed).merged.held fp = fedTo fed .main fp ++
      ((addAll {} fed).complementary.get? fp).toList ++ fedTo fed .recent fp := by
  have hholds := holds_addAll fed
  rw [held_merged, (hholds.main fp).1, (hholds.recent fp).1]

theorem held_merged_ne_nil {fp : Fingerprint}
    (hsome : ((addAll {} fed).merged.get? fp).isSome) : (addAll {} fed).merged.held fp ≠ [] := by
  intro hnil
  have hnewest := (holds_addAll fed).complementary fp
  rw [held_merged_addAll, List.append_eq_nil_iff, List.append_eq_nil_iff] at hnil
  obtain ⟨⟨hmain, hcomplementary⟩, hrecent⟩ := hnil
  rw [Option.toList_eq_nil_iff.mp hcomplementary, newest_none_iff] at hnewest
  obtain ⟨stream, hne⟩ := (isSome_get?_merged_addAll fed fp).mp hsome
  cases stream with
  | main => exact hne hmain
  | complementary => exact hne hnewest
  | recent => exact hne hrecent

theorem mem_keys_merged_addAll (fp : Fingerprint) :
    fp ∈ (addAll {} fed).merged.entries.map Prod.fst ↔
      ∃ entry ∈ fed, entry.2.fingerprint = fp := by
  rw [mem_keys_iff, isSome_get?_merged_addAll]
  constructor
  · rintro ⟨stream, hne⟩
    obtain ⟨d, hd⟩ := List.exists_mem_of_ne_nil _ hne
    exact ⟨(stream, d), mem_fedTo.mp hd⟩
  · rintro ⟨⟨stream, d⟩, hmem, hfp⟩
    exact ⟨stream, List.ne_nil_of_mem (mem_fedTo.mpr ⟨hmem, hfp⟩)⟩

/-- The descriptors of a timeline, before they are sorted. -/
theorem sortedByTime_of_mem {timeline : Timeline}
    (hmem : timeline ∈ (ofCollection month (addAll {} fed)).timelines) :
    timeline.descriptors =
      sortedByTime ((addAll {} fed).merged.held timeline.fingerprint) := by
  obtain ⟨ds, hentry, hds⟩ := (enrolled_ofCollection month (addAll {} fed)).mem_entries hmem
  rw [hds, held, mem_entries_iff.mp hentry]
  rfl

theorem ne_nil_of_mem {timeline : Timeline}
    (hmem : timeline ∈ (ofCollection month (addAll {} fed)).timelines) :
    timeline.descriptors ≠ [] := by
  intro hnil
  have hkey : timeline.fingerprint ∈ (addAll {} fed).merged.entries.map Prod.fst :=
    (enrolled_ofCollection month (addAll {} fed)).fingerprints ▸ List.mem_map_of_mem hmem
  have hlength := congrArg List.length (sortedByTime_of_mem month fed hmem)
  rw [hnil, sortedByTime, Instant.length_sortBy] at hlength
  exact held_merged_ne_nil fed (mem_keys_iff.mp hkey) (List.length_eq_zero_iff.mp hlength.symm)

theorem pairwise_published_of_mem {timeline : Timeline}
    (hmem : timeline ∈ (ofCollection month (addAll {} fed)).timelines) :
    timeline.descriptors.Pairwise fun d e => d.published ≤ e.published := by
  rw [sortedByTime_of_mem month fed hmem]
  exact Instant.pairwise_sortBy _ _

/-- The descriptors of a timeline have been fed, and are those of its relay. -/
theorem fed_of_mem {timeline : Timeline}
    (hmem : timeline ∈ (ofCollection month (addAll {} fed)).timelines) {d : Descriptor}
    (hd : d ∈ timeline.descriptors) :
    ∃ stream, (stream, d) ∈ fed ∧ d.fingerprint = timeline.fingerprint := by
  rw [sortedByTime_of_mem month fed hmem, sortedByTime, Instant.mem_sortBy, held_merged_addAll,
    List.mem_append, List.mem_append, Option.mem_toList] at hd
  rcases hd with (hd | hd) | hd
  · exact ⟨_, mem_fedTo.mp hd⟩
  · have hnewest := (holds_addAll fed).complementary timeline.fingerprint
    rw [hd] at hnewest
    exact ⟨_, mem_fedTo.mp hnewest.mem⟩
  · exact ⟨_, mem_fedTo.mp hd⟩

/-- A timeline is backdatable if every descriptor that was fed can be put a day earlier. -/
theorem backdatable_of_mem
    (h : ∀ entry ∈ fed, ∃ s, entry.2.published.dayBefore = .ok s) {timeline : Timeline}
    (hmem : timeline ∈ (ofCollection month (addAll {} fed)).timelines) :
    timeline.Backdatable := by
  intro d hd
  obtain ⟨stream, hfed, -⟩ := fed_of_mem month fed hmem (List.mem_of_mem_head? hd)
  exact h _ hfed

/-- Timelines come in the order of their numbers. -/
theorem pairwise_ids :
    (ofCollection month (addAll {} fed)).timelines.Pairwise fun a b => a.id < b.id := by
  rw [← List.pairwise_map, (enrolled_ofCollection month (addAll {} fed)).numbers,
    List.pairwise_map]
  exact (List.pairwise_lt_range' 1).imp Int.ofNat_lt.mpr

theorem nodup_ids : ((ofCollection month (addAll {} fed)).timelines.map (·.id)).Nodup :=
  List.pairwise_map.mpr ((pairwise_ids month fed).imp ne_of_lt)

theorem nodup_fingerprints :
    ((ofCollection month (addAll {} fed)).timelines.map (·.fingerprint)).Nodup :=
  (enrolled_ofCollection month (addAll {} fed)).fingerprints ▸ (addAll {} fed).merged.nodup_keys

theorem length_held_merged (fp : Fingerprint) :
    ((addAll {} fed).merged.held fp).length = (relaysOf fed .main).count fp +
      (if fp ∈ relaysOf fed .complementary then 1 else 0) + (relaysOf fed .recent).count fp := by
  rw [held_merged_addAll, List.length_append, List.length_append, length_fedTo, length_fedTo]
  congr 2
  have hnewest := (holds_addAll fed).complementary fp
  rw [if_congr fedTo_ne_nil_iff.symm rfl rfl]
  cases hget : (addAll {} fed).complementary.get? fp with
  | none =>
      rw [hget, newest_none_iff] at hnewest
      simp [hnewest]
  | some d =>
      rw [hget] at hnewest
      simp [List.ne_nil_of_mem hnewest.mem]

theorem total_ofCollection :
    ((ofCollection month (addAll {} fed)).timelines.map (·.descriptors.length)).sum =
      fed.countP (fun entry => entry.1 = .main) + (relaysOf fed .complementary).toFinset.card +
        fed.countP fun entry => entry.1 = .recent := by
  have hfingerprints := (enrolled_ofCollection month (addAll {} fed)).fingerprints
  set keys := (addAll {} fed).merged.entries.map Prod.fst
  have hnodup : keys.Nodup := (addAll {} fed).merged.nodup_keys
  have hcover : ∀ stream, ∀ fp ∈ relaysOf fed stream, fp ∈ keys := by
    intro stream fp hfp
    rw [mem_keys_iff, isSome_get?_merged_addAll]
    exact ⟨stream, fedTo_ne_nil_iff.mpr hfp⟩
  have hfed : ∀ stream,
      (relaysOf fed stream).length = fed.countP fun entry => entry.1 = stream := by
    intro stream
    rw [relaysOf, List.length_map, List.countP_eq_length_filter]
  calc
    ((ofCollection month (addAll {} fed)).timelines.map (·.descriptors.length)).sum =
        (keys.map fun fp => ((addAll {} fed).merged.held fp).length).sum := by
      rw [← hfingerprints, List.map_map]
      congr 1
      refine List.map_congr_left fun timeline hmem => ?_
      rw [sortedByTime_of_mem month fed hmem, sortedByTime, Instant.length_sortBy]
      rfl
    _ = (keys.map fun fp => (relaysOf fed .main).count fp).sum +
          (keys.map fun fp => if fp ∈ relaysOf fed .complementary then 1 else 0).sum +
          (keys.map fun fp => (relaysOf fed .recent).count fp).sum := by
      simp only [length_held_merged, List.sum_map_add]
    _ = _ := by
      rw [sum_count_eq_length hnodup (hcover .main), sum_mem_eq_card hnodup (hcover _),
        sum_count_eq_length hnodup (hcover .recent), hfed, hfed]

/-- The numbers of the relays are those of their timelines, and there are no others. -/
theorem size_ids_ofCollection :
    (ofCollection month (addAll {} fed)).ids.size =
      (ofCollection month (addAll {} fed)).timelines.length := by
  have henrolled := enrolled_ofCollection month (addAll {} fed)
  set r := ofCollection month (addAll {} fed)
  have hmem : ∀ fp, fp ∈ r.ids.entries.map Prod.fst ↔ fp ∈ r.timelines.map (·.fingerprint) := by
    intro fp
    rw [mem_keys_iff]
    constructor
    · intro hsome
      by_contra hnone
      rw [henrolled.fingerprints] at hnone
      have hget : r.ids.get? fp = none := henrolled.id?_eq_none fp hnone
      simp [hget] at hsome
    · intro hfp
      obtain ⟨timeline, htimeline, rfl⟩ := List.mem_map.mp hfp
      have hget : r.ids.get? timeline.fingerprint = some timeline.id :=
        henrolled.id?_of_mem timeline htimeline
      simp [hget]
  have hperm := (List.perm_ext_iff_of_nodup r.ids.nodup_keys (nodup_fingerprints month fed)).mpr
    hmem
  simpa [size] using hperm.length_eq

/--
Reconciliation neither loses, nor invents, nor misplaces descriptors, whatever is fed to it and in
whatever order.
-/
theorem reconciles_ofCollection_addAll :
    Reconciles month fed (ofCollection month (addAll {} fed)) := by
  have henrolled := enrolled_ofCollection month (addAll {} fed)
  have hlength : (ofCollection month (addAll {} fed)).timelines.length =
      (addAll {} fed).merged.entries.length := by
    simpa using congrArg List.length henrolled.timelines
  exact {
    month_eq := henrolled.month_eq
    mem_fingerprints := by
      intro fp
      rw [henrolled.fingerprints, mem_keys_merged_addAll]
    ascending := henrolled.fingerprints ▸ (addAll {} fed).merged.ascending
    numbers := by rw [henrolled.numbers, hlength]
    sorted := by
      intro timeline hmem
      refine ⟨_, (holds_addAll fed).complementary timeline.fingerprint, ?_⟩
      rw [sortedByTime_of_mem month fed hmem, ← held_merged_addAll]
      exact Instant.stablySorted_sortBy _ _
    id?_of_mem := henrolled.id?_of_mem
    id?_eq_none := by
      intro fp hfp
      exact henrolled.id?_eq_none fp (henrolled.fingerprints ▸ hfp)
    size_ids := size_ids_ofCollection month fed
    addresses := henrolled.addresses
    ne_nil := fun timeline hmem => ne_nil_of_mem month fed hmem
    own := fun timeline hmem d hd => (fed_of_mem month fed hmem hd).choose_spec.2
    total := total_ofCollection month fed }

end Feed

end Reconciliation

/-- A descriptor that says nothing but its relay, its time and its family. -/
def Descriptor.bare (fingerprint : Fingerprint) (published : Instant) (family : FingerprintSet) :
    Descriptor where
  fingerprint
  nickname := ""
  published
  address := .v4 0
  bandwidth := {}
  platform := ""
  version := ""
  hibernating := false
  exitPolicy := []
  family

/-- The first second of a day in 2020. -/
def midnight (month day : Nat) : Instant :=
  .midnight ((Date.of? 2020 month day).getD .epoch)

def alpha : Fingerprint :=
  ⟨1, by decide⟩

def beta : Fingerprint :=
  ⟨2, by decide⟩

def fifthOfMarch : Instant :=
  midnight 3 5

end RelaySnapshot
