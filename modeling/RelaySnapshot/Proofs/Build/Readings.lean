import RelaySnapshot.Build
import RelaySnapshot.Proofs.Reconciliation.Interleaving

/-!
# Sources that are read side by side

Readers hand on what they read as they come to it, so what has been collected in the end is some
merge of what each of them hands on. Of the merges of sources in memory a build can tell those apart
that have the recent descriptors of one relay and one time in different orders.
-/

namespace RelaySnapshot

namespace Merges

variable {α : Type} {lists : List (List α)} {merged : List α}

theorem perm (h : Merges lists merged) : merged.Perm lists.flatten := by
  induction h with
  | done hnil => rw [List.flatten_eq_nil_iff.mpr hnil]
  | next _ ih =>
      rw [List.flatten_append, List.flatten_cons] at ih ⊢
      exact (ih.cons _).trans List.perm_middle.symm

theorem filter (h : Merges lists merged) (p : α → Bool) :
    Merges (lists.map (List.filter p)) (merged.filter p) := by
  induction h with
  | done hnil =>
      refine .done fun list hlist => ?_
      obtain ⟨list, hmem, rfl⟩ := List.mem_map.mp hlist
      rw [hnil list hmem, List.filter_nil]
  | @next before list after a merged _ ih =>
      rw [List.map_append, List.map_cons] at ih ⊢
      cases ha : p a with
      | true =>
          rw [List.filter_cons_of_pos ha, List.filter_cons_of_pos ha]
          exact .next ih
      | false =>
          rw [List.filter_cons_of_neg (by simp [ha]), List.filter_cons_of_neg (by simp [ha])]
          exact ih

/-- Where only one list has something, there is nothing to choose. -/
theorem eq_flatten (h : Merges lists merged)
    (hone : lists.Pairwise fun a b => a = [] ∨ b = []) : merged = lists.flatten := by
  induction h with
  | done hnil => exact (List.flatten_eq_nil_iff.mpr hnil).symm
  | @next before list after a merged _ ih =>
      obtain ⟨hbefore, hafter, hacross⟩ := List.pairwise_append.mp hone
      have hbefore_nil : ∀ b ∈ before, b = [] := fun b hb =>
        (hacross b hb _ List.mem_cons_self).resolve_right (List.cons_ne_nil a list)
      have hafter_nil : ∀ b ∈ after, b = [] := fun b hb =>
        ((List.pairwise_cons.mp hafter).1 b hb).resolve_left (List.cons_ne_nil a list)
      have hinner : (before ++ list :: after).Pairwise fun a b => a = [] ∨ b = [] := by
        refine List.pairwise_append.mpr ⟨hbefore, List.pairwise_cons.mpr ⟨?_, ?_⟩, ?_⟩
        · exact fun b hb => .inr (hafter_nil b hb)
        · exact (List.pairwise_cons.mp hafter).2
        · exact fun b hb _ _ => .inl (hbefore_nil b hb)
      rw [ih hinner]
      simp only [List.flatten_append, List.flatten_cons,
        List.flatten_eq_nil_iff.mpr hbefore_nil, List.nil_append, List.cons_append]

end Merges

/-! ### How a reading ends -/

theorem Stats.add_right_comm (a b c : Stats) : (a.add b).add c = (a.add c).add b := by
  simp [Stats.add, Nat.add_right_comm]

instance : RightCommutative Stats.add :=
  ⟨Stats.add_right_comm⟩

namespace Feeds

/-- Each feed is read to its end. -/
def Finish (feeds : Feeds) : Prop :=
  ∀ entry ∈ feeds.all, ∃ stats, entry.2.ending = .finished stats

def total (feeds : Feeds) : Stats :=
  (feeds.all.filterMap fun entry => entry.2.stats?).foldl Stats.add {}

/-- The order in which feeds come to their ends does not matter if all of them do. -/
theorem Reading.outcome_eq {feeds : Feeds} (reading : feeds.Reading) (hfinish : feeds.Finish) :
    reading.outcome = some (.ok feeds.total) := by
  obtain ⟨fed, merges, ended, hperm⟩ := reading
  have hended : ∀ entry ∈ ended, ∃ stats, entry.2.ending = .finished stats :=
    fun entry hentry => hfinish entry (hperm.mem_iff.mp hentry)
  have hfailures : (ended.findSome? fun entry => entry.2.failure?) = none := by
    refine List.findSome?_eq_none_iff.mpr fun entry hentry => ?_
    obtain ⟨stats, hstats⟩ := hended entry hentry
    rw [Feed.failure?, hstats]
  have hstats : (ended.mapM fun entry => entry.2.stats?) =
      some (ended.filterMap fun entry => entry.2.stats?) := by
    clear hperm hfailures
    induction ended with
    | nil => rfl
    | cons entry ended ih =>
        obtain ⟨⟨stats, hstats⟩, hrest⟩ := List.forall_mem_cons.mp hended
        have hfirst : entry.2.stats? = some stats := by rw [Feed.stats?, hstats]
        rw [List.mapM_cons, ih hrest, List.filterMap_cons, hfirst]
        rfl
  have hsum := (hperm.filterMap fun entry => entry.2.stats?).foldl_eq (f := Stats.add) {}
  rw [outcome, hfailures, hstats, total, ← hsum]
  rfl

/-! ### Sources in memory -/

def ofBatches (main complementary : Option (List Descriptor)) (recent : List (List Descriptor)) :
    Feeds where
  main := main.map .ofBatch
  complementary := complementary.map .ofBatch
  recent := recent.map .ofBatch

end Feeds

/-- What sources hold, with the streams that it belongs to. -/
def streamed (main complementary : Option (List Descriptor)) (recent : List (List Descriptor)) :
    List (List (Stream × Descriptor)) :=
  main.toList.map (fun ds => ds.map (.main, ·)) ++
    complementary.toList.map (fun ds => ds.map (.complementary, ·)) ++
      recent.map fun ds => ds.map (.recent, ·)

section Batches

variable {main complementary : Option (List Descriptor)} {recent : List (List Descriptor)}

theorem lists_ofBatches :
    (Feeds.ofBatches main complementary recent).lists = streamed main complementary recent := by
  cases main <;> cases complementary <;>
    simp [Feeds.lists, Feeds.all, Feeds.ofBatches, streamed, Feed.ofBatch, Source.readBatch]

theorem finish_ofBatches : (Feeds.ofBatches main complementary recent).Finish := by
  intro entry hentry
  obtain ⟨batch, hbatch⟩ : ∃ batch, entry.2 = .ofBatch batch := by
    simp only [Feeds.all, Feeds.ofBatches, List.mem_append, List.mem_map, Option.mem_toList,
      Option.map_eq_some_iff] at hentry
    rcases hentry with (⟨_, ⟨ds, -, rfl⟩, rfl⟩ | ⟨_, ⟨ds, -, rfl⟩, rfl⟩) | ⟨_, ⟨ds, -, rfl⟩, rfl⟩
    all_goals exact ⟨ds, rfl⟩
  exact ⟨_, by rw [hbatch, Feed.ofBatch]⟩

/-- Every merge comes about. -/
theorem merges_streamed_iff {fed : List (Stream × Descriptor)} :
    Merges (streamed main complementary recent) fed ↔
      ∃ reading : (Feeds.ofBatches main complementary recent).Reading, reading.fed = fed := by
  rw [← lists_ofBatches]
  constructor
  · intro h
    exact ⟨⟨fed, h, _, .refl _⟩, rfl⟩
  · rintro ⟨reading, rfl⟩
    exact reading.merges

theorem total_ofBatches : (Feeds.ofBatches main complementary recent).total =
    ⟨(streamed main complementary recent).length,
      (streamed main complementary recent).flatten.length, 0⟩ := by
  have hstats (stream : Stream) (batches : List (List Descriptor)) (sum : Stats) :
      ((batches.map fun ds => (stream, Feed.ofBatch ds)).filterMap
        fun entry => entry.2.stats?).foldl Stats.add sum =
        ⟨sum.documents + batches.length, sum.descriptors + batches.flatten.length,
          sum.malformed⟩ := by
    induction batches generalizing sum with
    | nil => rfl
    | cons ds batches ih =>
        have hstats : (Feed.ofBatch ds).stats? = some ⟨1, ds.length, 0⟩ := rfl
        rw [List.map_cons, List.filterMap_cons, hstats, List.foldl_cons, ih]
        simp [Stats.add, Nat.add_assoc, Nat.add_comm 1]
  have hall : (Feeds.ofBatches main complementary recent).all =
      main.toList.map (fun ds => (.main, .ofBatch ds)) ++
        complementary.toList.map (fun ds => (.complementary, .ofBatch ds)) ++
          recent.map fun ds => (.recent, .ofBatch ds) := by
    cases main <;> cases complementary <;> simp [Feeds.all, Feeds.ofBatches]
  rw [Feeds.total, hall, List.filterMap_append, List.filterMap_append, List.foldl_append,
    List.foldl_append, hstats, hstats, hstats]
  simp [streamed, List.length_flatten, Function.comp_def, Nat.add_assoc]

/-- Two readings have the recent descriptors of one relay and one time in the same order. -/
def TiedAlike (fed fed' : List (Stream × Descriptor)) : Prop :=
  ∀ fp t, (fedInto fed .recent).filter (fun d => d.fingerprint = fp ∧ d.published = t) =
    (fedInto fed' .recent).filter fun d => d.fingerprint = fp ∧ d.published = t

/-- No descriptor of the one is of the same relay and time as one of the other. -/
def Untied (ds es : List Descriptor) : Prop :=
  ∀ d ∈ ds, ∀ e ∈ es, d.fingerprint = e.fingerprint → d.published ≠ e.published

theorem filter_fedInto (fed : List (Stream × Descriptor)) (stream : Stream)
    (p : Descriptor → Bool) :
    (fedInto fed stream).filter p =
      (fed.filter fun entry => entry.1 = stream ∧ p entry.2).map Prod.snd := by
  rw [fedInto, List.filter_map, List.filter_filter]
  congr 2
  funext entry
  simp [and_comm]

/-- Only one source has what is looked for, if only one of the recent ones can have it. -/
theorem pairwise_streamed {p : Stream × Descriptor → Bool} (stream : Stream)
    (hstream : ∀ entry, p entry = true → entry.1 = stream)
    (hrecent : stream = .recent → recent.Pairwise fun ds es =>
      (∀ d ∈ ds, p (.recent, d) = false) ∨ ∀ e ∈ es, p (.recent, e) = false) :
    ((streamed main complementary recent).map (List.filter p)).Pairwise
      fun a b => a = [] ∨ b = [] := by
  have hnil {other : Stream} {ds : List Descriptor} (hnone : ∀ d ∈ ds, p (other, d) = false) :
      (ds.map (other, ·)).filter p = [] := by
    rw [List.filter_map, List.map_eq_nil_iff, List.filter_eq_nil_iff]
    exact fun d hd => by simp [hnone d hd]
  have hother {other : Stream} (hne : other ≠ stream) (ds : List Descriptor) :
      (ds.map (other, ·)).filter p = [] :=
    hnil fun d _ => eq_false_of_ne_true fun htrue => hne (hstream _ htrue)
  simp only [streamed, List.map_append, List.map_map, List.pairwise_append, List.pairwise_map,
    List.mem_append, List.mem_map, Function.comp_apply]
  refine ⟨⟨?main, ?complementary, ?_⟩, ?recent, ?_⟩
  case main => cases main <;> simp
  case complementary => cases complementary <;> simp
  case recent =>
    by_cases hlast : stream = .recent
    · exact (hrecent hlast).imp fun hnone => hnone.imp hnil hnil
    · exact List.pairwise_of_forall fun ds _ => .inl (hother (Ne.symm hlast) ds)
  -- Sources of different streams have nothing in common.
  · rintro _ ⟨ds, -, rfl⟩ _ ⟨es, -, rfl⟩
    by_cases hfirst : stream = .main
    · exact .inr (hother (by simp [hfirst]) es)
    · exact .inl (hother (Ne.symm hfirst) ds)
  · rintro _ (⟨ds, -, rfl⟩ | ⟨ds, -, rfl⟩) _ ⟨es, -, rfl⟩
    all_goals
      by_cases hlast : stream = .recent
      · exact .inl (hother (by simp [hlast]) ds)
      · exact .inr (hother (Ne.symm hlast) es)

variable {fed fed' : List (Stream × Descriptor)}

theorem filter_eq_of_merges (h : Merges (streamed main complementary recent) fed)
    (h' : Merges (streamed main complementary recent) fed') {p : Stream × Descriptor → Bool}
    (hone : ((streamed main complementary recent).map (List.filter p)).Pairwise
      fun a b => a = [] ∨ b = []) : fed.filter p = fed'.filter p := by
  rw [(h.filter p).eq_flatten hone, (h'.filter p).eq_flatten hone]

theorem tiedAlike_of_untied (h : Merges (streamed main complementary recent) fed)
    (h' : Merges (streamed main complementary recent) fed') (hrecent : recent.Pairwise Untied) :
    TiedAlike fed fed' := by
  intro fp t
  rw [filter_fedInto, filter_fedInto]
  congr 1
  refine filter_eq_of_merges h h' (pairwise_streamed .recent ?_ fun _ => ?_)
  · exact fun entry hentry => (of_decide_eq_true hentry).1
  · refine hrecent.imp fun {ds es} huntied => ?_
    by_contra hboth
    simp only [not_or, not_forall, decide_eq_false_iff_not, not_not] at hboth
    obtain ⟨⟨d, hd, hdtied⟩, ⟨e, he, hetied⟩⟩ := hboth
    simp only [decide_eq_true_eq, true_and] at hdtied hetied
    exact huntied d hd e he (hdtied.1.trans hetied.1.symm) (hdtied.2.trans hetied.2.symm)

theorem shuffled_of_merges (h : Merges (streamed main complementary recent) fed)
    (h' : Merges (streamed main complementary recent) fed') (hties : TiedAlike fed fed') :
    Shuffled fed fed' where
  perm stream := ((h.perm.trans h'.perm.symm).filter _).map _
  ties stream fp t := by
    by_cases hlast : stream = .recent
    · exact hlast ▸ hties fp t
    · rw [filter_fedInto, filter_fedInto]
      congr 1
      refine filter_eq_of_merges h h' (pairwise_streamed stream ?_ fun h => absurd h hlast)
      exact fun entry hentry => (of_decide_eq_true hentry).1

end Batches

end RelaySnapshot
