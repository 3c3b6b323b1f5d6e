import Mathlib.Data.List.Dedup
import Mathlib.Data.List.Induction
import RelaySnapshot.Proofs.Calendar.Order
import RelaySnapshot.Proofs.Fingerprint.Lookup
import RelaySnapshot.Reconciliation

namespace RelaySnapshot

/-- What was fed of a relay into a stream, in the order of the feed. -/
def fedTo (fed : List (Stream × Descriptor)) (stream : Stream) (fp : Fingerprint) :
    List Descriptor :=
  (fed.filter fun entry => entry.1 = stream ∧ entry.2.fingerprint = fp).map Prod.snd

/-- The first one of those that have the latest time, if there are any at all. -/
def Newest (ds : List Descriptor) : Option Descriptor → Prop
  | none => ds = []
  | some d => ∃ before after, ds = before ++ d :: after ∧
      (∀ e ∈ before, e.published < d.published) ∧ ∀ e ∈ after, e.published ≤ d.published

theorem fedTo_append (fed : List (Stream × Descriptor)) (stream : Stream) (d : Descriptor)
    (stream' : Stream) (fp : Fingerprint) :
    fedTo (fed ++ [(stream, d)]) stream' fp =
      fedTo fed stream' fp ++ if stream = stream' ∧ d.fingerprint = fp then [d] else [] := by
  rw [fedTo, List.filter_append, List.map_append, fedTo]
  congr 1
  by_cases h : stream = stream' ∧ d.fingerprint = fp <;> simp [h]

theorem mem_fedTo {fed : List (Stream × Descriptor)} {stream : Stream} {fp : Fingerprint}
    {d : Descriptor} : d ∈ fedTo fed stream fp ↔ (stream, d) ∈ fed ∧ d.fingerprint = fp := by
  simp only [fedTo, List.mem_map, List.mem_filter, decide_eq_true_eq, Prod.exists,
    exists_eq_right]
  constructor
  · rintro ⟨stream', hmem, rfl, hfp⟩
    exact ⟨hmem, hfp⟩
  · rintro ⟨hmem, hfp⟩
    exact ⟨stream, hmem, rfl, hfp⟩

@[simp]
theorem newest_none_iff {ds : List Descriptor} : Newest ds none ↔ ds = [] :=
  Iff.rfl

theorem Newest.mem {ds : List Descriptor} {d : Descriptor} (h : Newest ds (some d)) : d ∈ ds := by
  obtain ⟨before, after, rfl, _⟩ := h
  simp

namespace FingerprintMap

variable {α : Type}

/-- What is held of a relay, which is nothing for one without an entry. -/
def held (m : FingerprintMap (List α)) (fp : Fingerprint) : List α :=
  (m.get? fp).getD []

theorem isSome_get?_alter (m : FingerprintMap α) (key fp : Fingerprint) (f : Option α → α) :
    ((m.alter key f).get? fp).isSome ↔ fp = key ∨ (m.get? fp).isSome := by
  rw [get?_alter]
  by_cases heq : fp = key <;> simp [heq]

theorem filter_entries (m : FingerprintMap α) (fp : Fingerprint) :
    m.entries.filter (fun entry => entry.1 = fp) = (m.get? fp).toList.map fun a => (fp, a) := by
  obtain ⟨entries, hascending⟩ := m
  change _ = (entries.lookup fp).toList.map _
  induction entries with
  | nil => rfl
  | cons entry rest ih =>
      obtain ⟨hentry, hrest⟩ := List.pairwise_cons.mp hascending
      rw [lookup_cons_eq]
      by_cases heq : entry.1 = fp
      · subst heq
        have hnone : rest.filter (fun other => other.1 = entry.1) = [] := by
          rw [List.filter_eq_nil_iff]
          intro other hother
          have hlt := hentry other.1 (List.mem_map_of_mem hother)
          simpa using (Fingerprint.ne_of_lt hlt).symm
        rw [List.filter_cons_of_pos (by simp), hnone]
        simp
      · rw [List.filter_cons_of_neg (by simpa using heq), ih hrest, if_neg (Ne.symm heq)]

end FingerprintMap

namespace Collection

open FingerprintMap

theorem held_alter_appended (m : FingerprintMap (List Descriptor)) (key fp : Fingerprint)
    (more : List Descriptor) :
    (m.alter key (appended more)).held fp = m.held fp ++ if key = fp then more else [] := by
  rw [held, get?_alter]
  by_cases heq : fp = key
  · simp [heq, appended, held]
  · simp [heq, Ne.symm heq, held]

/-! ### Feeding -/

theorem addAll_append (c : Collection) (fed : List (Stream × Descriptor)) (stream : Stream)
    (d : Descriptor) : c.addAll (fed ++ [(stream, d)]) = (c.addAll fed).add stream d := by
  simp [addAll]

theorem newest_append {ds : List Descriptor} {held : Option Descriptor} (d : Descriptor)
    (h : Newest ds held) : Newest (ds ++ [d]) (some (newest d held)) := by
  cases held with
  | none =>
      have hnil : ds = [] := h
      exact ⟨[], [], by simp [hnil, newest], by simp, by simp⟩
  | some held =>
      obtain ⟨before, after, rfl, hbefore, hafter⟩ := h
      rw [newest]
      split
      · rename_i hlt
        refine ⟨before ++ held :: after, [], by simp, ?_, by simp⟩
        intro e he
        rcases List.mem_append.mp he with he | he
        · exact Int.lt_trans (hbefore e he) hlt
        · rcases List.mem_cons.mp he with rfl | he
          · exact hlt
          · exact Instant.lt_of_le_of_lt (hafter e he) hlt
      · rename_i hge
        refine ⟨before, after ++ [d], by simp, hbefore, ?_⟩
        intro e he
        rcases List.mem_append.mp he with he | he
        · exact hafter e he
        · rw [List.mem_singleton.mp he]
          exact Instant.not_lt.mp hge

/-- Of each relay all that was fed into a stream is held, with an entry for it if need be. -/
def Gathered (fed : List (Stream × Descriptor)) (stream : Stream)
    (m : FingerprintMap (List Descriptor)) : Prop :=
  ∀ fp, m.held fp = fedTo fed stream fp ∧ ((m.get? fp).isSome ↔ fedTo fed stream fp ≠ [])

theorem Gathered.push {fed : List (Stream × Descriptor)} {stream : Stream}
    {m : FingerprintMap (List Descriptor)} (h : Gathered fed stream m) (d : Descriptor) :
    Gathered (fed ++ [(stream, d)]) stream (m.alter d.fingerprint (appended [d])) := by
  intro fp
  obtain ⟨hheld, hkeys⟩ := h fp
  rw [fedTo_append, held_alter_appended, isSome_get?_alter, hheld, hkeys]
  by_cases heq : d.fingerprint = fp
  · simp [heq]
  · simp [heq, Ne.symm heq]

theorem Gathered.skip {fed : List (Stream × Descriptor)} {stream stream' : Stream}
    {m : FingerprintMap (List Descriptor)} (h : Gathered fed stream m) (d : Descriptor)
    (hne : stream' ≠ stream) : Gathered (fed ++ [(stream', d)]) stream m := by
  intro fp
  rw [fedTo_append, if_neg fun hboth => hne hboth.1, List.append_nil]
  exact h fp

/-- What has been collected of a feed. -/
structure Holds (fed : List (Stream × Descriptor)) (c : Collection) : Prop where
  main : Gathered fed .main c.main
  complementary : ∀ fp, Newest (fedTo fed .complementary fp) (c.complementary.get? fp)
  recent : Gathered fed .recent c.recent

theorem newest_fedTo_of_ne {fed : List (Stream × Descriptor)} {stream : Stream} (d : Descriptor)
    {fp : Fingerprint} {held : Option Descriptor}
    (h : Newest (fedTo fed .complementary fp) held)
    (hne : ¬(stream = .complementary ∧ d.fingerprint = fp)) :
    Newest (fedTo (fed ++ [(stream, d)]) .complementary fp) held := by
  rwa [fedTo_append, if_neg hne, List.append_nil]

theorem Holds.add {fed : List (Stream × Descriptor)} {c : Collection} (h : Holds fed c)
    (stream : Stream) (d : Descriptor) : Holds (fed ++ [(stream, d)]) (c.add stream d) := by
  cases stream with
  | main =>
      exact {
        main := h.main.push d
        complementary := fun fp => newest_fedTo_of_ne d (h.complementary fp) (by simp)
        recent := h.recent.skip d (by decide) }
  | complementary =>
      refine ⟨h.main.skip d (by decide), fun fp => ?_, h.recent.skip d (by decide)⟩
      change Newest _ ((c.complementary.alter d.fingerprint (newest d)).get? fp)
      rw [get?_alter]
      by_cases heq : fp = d.fingerprint
      · subst heq
        rw [if_pos rfl, fedTo_append, if_pos ⟨rfl, rfl⟩]
        exact newest_append d (h.complementary d.fingerprint)
      · rw [if_neg heq]
        exact newest_fedTo_of_ne d (h.complementary fp) fun hboth => heq hboth.2.symm
  | recent =>
      exact {
        main := h.main.skip d (by decide)
        complementary := fun fp => newest_fedTo_of_ne d (h.complementary fp) (by simp)
        recent := h.recent.push d }

/-- Every feed is collected. -/
theorem holds_addAll (fed : List (Stream × Descriptor)) : Holds fed (addAll {} fed) := by
  induction fed using List.reverseRecOn with
  | nil =>
      have hempty : ∀ stream, Gathered [] stream .empty := fun stream fp => ⟨rfl, by simp [fedTo]⟩
      exact ⟨hempty .main, fun _ => rfl, hempty .recent⟩
  | append_singleton fed entry ih =>
      obtain ⟨stream, d⟩ := entry
      rw [addAll_append]
      exact ih.add stream d

/-! ### Merging -/

theorem extend_cons (m : FingerprintMap (List Descriptor)) (fp : Fingerprint)
    (ds : List Descriptor) (entries : List (Fingerprint × List Descriptor)) :
    extend m ((fp, ds) :: entries) = extend (m.alter fp (appended ds)) entries := rfl

theorem held_extend (m : FingerprintMap (List Descriptor))
    (entries : List (Fingerprint × List Descriptor)) (fp : Fingerprint) :
    (extend m entries).held fp =
      m.held fp ++ (entries.filter fun entry => entry.1 = fp).flatMap Prod.snd := by
  induction entries generalizing m with
  | nil => simp [extend]
  | cons entry rest ih =>
      obtain ⟨key, ds⟩ := entry
      rw [extend_cons, ih, held_alter_appended, List.append_assoc]
      by_cases heq : key = fp <;> simp [heq]

theorem isSome_get?_extend (m : FingerprintMap (List Descriptor))
    (entries : List (Fingerprint × List Descriptor)) (fp : Fingerprint) :
    ((extend m entries).get? fp).isSome ↔ (m.get? fp).isSome ∨ fp ∈ entries.map Prod.fst := by
  induction entries generalizing m with
  | nil => simp [extend]
  | cons entry rest ih =>
      obtain ⟨key, ds⟩ := entry
      rw [extend_cons, ih, isSome_get?_alter, List.map_cons, List.mem_cons]
      tauto

theorem get?_eq_of_held_eq {m m' : FingerprintMap (List Descriptor)} {fp : Fingerprint}
    (hheld : m.held fp = m'.held fp) (hsome : (m.get? fp).isSome ↔ (m'.get? fp).isSome) :
    m.get? fp = m'.get? fp := by
  rw [held, held] at hheld
  cases hm : m.get? fp <;> cases hm' : m'.get? fp <;> simp_all

theorem perm_eq_of_length_le_one {α : Type} {l l' : List α} (hperm : l.Perm l')
    (hone : l.length ≤ 1) : l = l' := by
  match l with
  | [] => exact hperm.nil_eq
  | [a] => exact (List.perm_singleton.mp hperm.symm).symm
  | _ :: _ :: _ => simp at hone

theorem extend_eq_of_perm (m : FingerprintMap (List Descriptor))
    {entries entries' : List (Fingerprint × List Descriptor)} (hperm : entries.Perm entries')
    (hnodup : (entries.map Prod.fst).Nodup) : extend m entries = extend m entries' := by
  refine ext_get? fun fp => get?_eq_of_held_eq ?_ ?_
  · have hfilter := hperm.filter fun entry => entry.1 = fp
    have hone : (entries.filter fun entry => entry.1 = fp).length ≤ 1 := by
      rw [← List.countP_eq_length_filter]
      calc
        entries.countP (fun entry => decide (entry.1 = fp)) =
            (entries.map Prod.fst).count fp := by
          rw [List.count, List.countP_map]
          rfl
        _ ≤ 1 := List.nodup_iff_count_le_one.mp hnodup fp
    rw [held_extend, held_extend]
    congr 2
    exact perm_eq_of_length_le_one hfilter hone
  · rw [isSome_get?_extend, isSome_get?_extend, (hperm.map Prod.fst).mem_iff]

/-- It makes no difference in which order the complementary and the recent relays are visited. -/
theorem extend_extend_eq_merged (c : Collection) {complementary : List (Fingerprint × Descriptor)}
    {recent : List (Fingerprint × List Descriptor)}
    (hcomplementary : complementary.Perm c.complementary.entries)
    (hrecent : recent.Perm c.recent.entries) :
    extend (extend c.main (complementary.map fun (fp, d) => (fp, [d]))) recent = c.merged := by
  have hkeys {α : Type} {m : FingerprintMap α} {entries : List (Fingerprint × α)}
      (hperm : entries.Perm m.entries) : (entries.map Prod.fst).Nodup :=
    (hperm.map Prod.fst).nodup_iff.mpr m.nodup_keys
  have hnodup : ((complementary.map fun (fp, d) => (fp, [d])).map Prod.fst).Nodup := by
    rw [List.map_map]
    exact hkeys hcomplementary
  rw [extend_eq_of_perm c.main (hcomplementary.map _) hnodup,
    extend_eq_of_perm _ hrecent (hkeys hrecent)]
  rfl

theorem held_merged (c : Collection) (fp : Fingerprint) :
    c.merged.held fp =
      c.main.held fp ++ (c.complementary.get? fp).toList ++ c.recent.held fp := by
  rw [merged, held_extend, held_extend]
  congr 1
  · congr 1
    rw [List.filter_map]
    change ((c.complementary.entries.filter fun entry => entry.1 = fp).map _).flatMap _ = _
    rw [filter_entries]
    cases c.complementary.get? fp <;> simp
  · rw [filter_entries, held]
    cases c.recent.get? fp <;> simp

theorem isSome_get?_merged (c : Collection) (fp : Fingerprint) :
    (c.merged.get? fp).isSome ↔
      (c.main.get? fp).isSome ∨ (c.complementary.get? fp).isSome ∨ (c.recent.get? fp).isSome := by
  rw [merged, isSome_get?_extend, isSome_get?_extend, ← mem_keys_iff (m := c.complementary),
    ← mem_keys_iff (m := c.recent), List.map_map, or_assoc]
  rfl

end Collection

end RelaySnapshot
