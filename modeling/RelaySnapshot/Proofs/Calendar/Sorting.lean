import Mathlib.Data.List.Perm.Basic
import RelaySnapshot.Proofs.Calendar.Order

namespace RelaySnapshot

/-- The items in the order of their times, those of one time in the order in which they stood. -/
structure StablySorted {α : Type} (time : α → Instant) (items sorted : List α) : Prop where
  ordered : sorted.Pairwise fun a b => time a ≤ time b
  stable : ∀ t, sorted.filter (fun a => time a = t) = items.filter (fun a => time a = t)

namespace Instant

variable {α : Type} (time : α → Instant)

theorem sortBy_perm (items : List α) : (sortBy time items).Perm items :=
  List.mergeSort_perm items _

@[simp]
theorem mem_sortBy {items : List α} {a : α} : a ∈ sortBy time items ↔ a ∈ items :=
  (sortBy_perm time items).mem_iff

@[simp]
theorem length_sortBy (items : List α) : (sortBy time items).length = items.length :=
  (sortBy_perm time items).length_eq

theorem decide_le_trans (a b c : α) (hab : decide (time a ≤ time b) = true)
    (hbc : decide (time b ≤ time c) = true) : decide (time a ≤ time c) = true :=
  decide_eq_true (le_trans (of_decide_eq_true hab) (of_decide_eq_true hbc))

theorem decide_le_total (a b : α) :
    (decide (time a ≤ time b) || decide (time b ≤ time a)) = true := by
  simpa using le_total (time a) (time b)

theorem pairwise_sortBy (items : List α) :
    (sortBy time items).Pairwise fun a b => time a ≤ time b :=
  (List.pairwise_mergeSort (decide_le_trans time) (decide_le_total time) items).imp
    of_decide_eq_true

theorem sublist_sortBy {items part : List α} (hsub : part.Sublist items)
    (hpart : part.Pairwise fun a b => time a ≤ time b) : part.Sublist (sortBy time items) :=
  List.sublist_mergeSort (decide_le_trans time) (decide_le_total time)
    (hpart.imp decide_eq_true) hsub

/-- A selection of the items that is in order already is left alone. -/
theorem filter_sortBy (p : α → Bool) {items : List α}
    (h : (items.filter p).Pairwise fun a b => time a ≤ time b) :
    (sortBy time items).filter p = items.filter p := by
  have hsub : (items.filter p).Sublist (sortBy time items) :=
    sublist_sortBy time List.filter_sublist h
  have hfilter : (items.filter p).Sublist ((sortBy time items).filter p) := by
    simpa using hsub.filter p
  have hlength : ((sortBy time items).filter p).length = (items.filter p).length :=
    ((sortBy_perm time items).filter p).length_eq
  exact (hfilter.eq_of_length hlength.symm).symm

/-- Sorting looks at nothing but the times. -/
theorem map_sortBy {β : Type} (f : β → α) (items : List β) :
    (sortBy (fun b => time (f b)) items).map f = sortBy time (items.map f) :=
  List.map_mergeSort fun _ _ _ _ => rfl

/-- In the order of time what is not later than an instant comes before what is later. -/
theorem filter_le_append_filter_lt {items : List α}
    (hsorted : items.Pairwise fun a b => time a ≤ time b) (t : Instant) :
    items.filter (fun a => time a ≤ t) ++ items.filter (fun a => t < time a) = items := by
  induction items with
  | nil => rfl
  | cons a items ih =>
      by_cases hle : time a ≤ t
      · rw [List.filter_cons_of_pos (by simpa using hle),
          List.filter_cons_of_neg (by simpa using not_lt.mpr hle), List.cons_append,
          ih hsorted.of_cons]
      · have hlater : ∀ b ∈ a :: items, t < time b := by
          intro b hb
          rcases List.mem_cons.mp hb with rfl | hb
          · exact not_le.mp hle
          · exact lt_of_lt_of_le (not_le.mp hle) (List.rel_of_pairwise_cons hsorted hb)
        rw [List.filter_eq_nil_iff.mpr fun b hb => by simpa using not_le.mpr (hlater b hb),
          List.filter_eq_self.mpr fun b hb => by simpa using hlater b hb, List.nil_append]

theorem stablySorted_sortBy (items : List α) : StablySorted time items (sortBy time items) where
  ordered := pairwise_sortBy time items
  stable := by
    intro t
    apply filter_sortBy
    rw [List.pairwise_filter]
    refine List.pairwise_of_forall fun a b ha hb => ?_
    rw [of_decide_eq_true ha, of_decide_eq_true hb]
    exact le_refl t

theorem mem_iff_of_filter_eq {l l' : List α}
    (hfilter : ∀ t, l.filter (fun a => time a = t) = l'.filter fun a => time a = t) {a : α} :
    a ∈ l ↔ a ∈ l' := by
  have hiff : a ∈ l.filter (fun b => time b = time a) ↔
      a ∈ l'.filter fun b => time b = time a := by
    rw [hfilter]
  simpa using hiff

/-- Lists in the order of time are the same if they hold the same items at each time. -/
theorem eq_of_filter_eq {l l' : List α} (h : l.Pairwise fun a b => time a ≤ time b)
    (h' : l'.Pairwise fun a b => time a ≤ time b)
    (hfilter : ∀ t, l.filter (fun a => time a = t) = l'.filter fun a => time a = t) : l = l' := by
  have hmem {a : α} : a ∈ l ↔ a ∈ l' := mem_iff_of_filter_eq time hfilter
  induction l generalizing l' with
  | nil =>
      have hnil : l' = [] :=
        List.eq_nil_iff_forall_not_mem.mpr fun a ha => List.not_mem_nil (hmem.mpr ha)
      exact hnil.symm
  | cons a l ih =>
      cases l' with
      | nil => exact absurd (hmem.mp List.mem_cons_self) List.not_mem_nil
      | cons b l' =>
          have hfirst {c d : α} {k : List α} (hk : (c :: k).Pairwise fun a b => time a ≤ time b)
              (hd : d ∈ c :: k) : time c ≤ time d := by
            rcases List.mem_cons.mp hd with rfl | hd
            · exact le_refl _
            · exact List.rel_of_pairwise_cons hk hd
          have htime : time b = time a :=
            le_antisymm (hfirst h' (hmem.mp List.mem_cons_self))
              (hfirst h (hmem.mpr List.mem_cons_self))
          -- The first items have one time, so they are the first of those with that time.
          obtain ⟨rfl, -⟩ : a = b ∧ _ := by
            simpa [htime] using hfilter (time a)
          have hrest : ∀ t, l.filter (fun a => time a = t) = l'.filter fun a => time a = t := by
            intro t
            have ht := hfilter t
            by_cases heq : time a = t
            · simpa [heq] using ht
            · simpa [heq] using ht
          rw [ih h.of_cons h'.of_cons hrest (mem_iff_of_filter_eq time hrest)]

/-- Sorting does not depend on the order of items with different times. -/
theorem sortBy_congr {items items' : List α}
    (hfilter : ∀ t, items.filter (fun a => time a = t) = items'.filter fun a => time a = t) :
    sortBy time items = sortBy time items' := by
  refine eq_of_filter_eq time (pairwise_sortBy time items) (pairwise_sortBy time items') fun t => ?_
  rw [(stablySorted_sortBy time items).stable, (stablySorted_sortBy time items').stable, hfilter]

end Instant

end RelaySnapshot
