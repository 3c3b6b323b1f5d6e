import RelaySnapshot.Family
import RelaySnapshot.Proofs.Calendar.Sorting

/-!
# The sweep over two relays

The changes of two relays are sorted by time and swept once, counting the declarations that are
open. Up to an instant the count is right, whatever stands at equal times, and what is open then has
a beginning; after it the next change of a relay that declares is that it ceases. So an instant lies
in one stretch if both relays declare each other, and in none otherwise. Changes after the end of
the month may come in disorder, but they are after every instant in question.
-/

namespace RelaySnapshot.Family

/-! ### Changes -/

@[simp]
theorem openAfter_nil (isOpen : Bool) : openAfter isOpen [] = isOpen := rfl

@[simp]
theorem openAfter_cons (isOpen : Bool) (p : Instant × Bool) (view : List (Instant × Bool)) :
    openAfter isOpen (p :: view) = openAfter p.2 view := by
  cases view <;> simp [openAfter, List.getLast?_cons]

theorem openAfter_append (isOpen : Bool) (before after : List (Instant × Bool)) :
    openAfter isOpen (before ++ after) = openAfter (openAfter isOpen before) after := by
  induction before generalizing isOpen with
  | nil => rfl
  | cons p before ih => simp [ih]

theorem changes_append (isOpen : Bool) (before after : List (Instant × Bool)) :
    changes isOpen (before ++ after) =
      changes isOpen before ++ changes (openAfter isOpen before) after := by
  induction before generalizing isOpen with
  | nil => rfl
  | cons p before ih =>
      obtain ⟨time, declares⟩ := p
      rw [List.cons_append, changes, changes, openAfter_cons]
      split
      · rename_i heq
        rw [ih, heq]
      · rw [ih, List.cons_append]

/-- The changes happen at times of the view, in its order. -/
theorem times_changes_sublist (isOpen : Bool) (view : List (Instant × Bool)) :
    ((changes isOpen view).map (·.time)).Sublist (view.map Prod.fst) := by
  induction view generalizing isOpen with
  | nil => exact .slnil
  | cons p view ih =>
      obtain ⟨time, declares⟩ := p
      rw [changes, List.map_cons]
      split
      · exact (ih isOpen).cons time
      · exact (ih declares).cons_cons time

/-- Events that alternately open and close, from one state of a declaration to another. -/
inductive Alternates : Bool → List Event → Bool → Prop
  | nil (isOpen : Bool) : Alternates isOpen [] isOpen
  | cons {isOpen last : Bool} {e : Event} {rest : List Event} (hopens : e.opens = !isOpen)
      (hrest : Alternates e.opens rest last) : Alternates isOpen (e :: rest) last

theorem Alternates.eq_of_nil {isOpen last : Bool} (h : Alternates isOpen [] last) :
    isOpen = last := by
  cases h
  rfl

theorem alternates_changes (isOpen : Bool) (view : List (Instant × Bool)) :
    Alternates isOpen (changes isOpen view) (openAfter isOpen view) := by
  induction view generalizing isOpen with
  | nil => exact .nil isOpen
  | cons p view ih =>
      obtain ⟨time, declares⟩ := p
      rw [changes, openAfter_cons]
      split
      · rename_i heq
        exact heq ▸ ih isOpen
      · rename_i hne
        exact .cons (by simpa using Bool.eq_not.mpr hne) (ih declares)

/-! ### The sweep -/

theorem mem_stretch {since : Option Instant} {stop : Instant} {i : Interval} :
    i ∈ stretch since stop ↔ since = some i.start ∧ i.stop = stop ∧ i.start < i.stop := by
  obtain ⟨start, end'⟩ := i
  cases since with
  | none => simp [stretch]
  | some s =>
      rw [stretch]
      split <;> simp <;> grind

/-- A stretch has an extent, and begins where two were open or at an event that is still to come. -/
theorem mem_overlaps {count : Nat} {since : Option Instant} {events : List Event} {i : Interval}
    (hmem : i ∈ overlaps count since events) :
    i.start < i.stop ∧ (since = some i.start ∨ ∃ e ∈ events, e.time = i.start) := by
  fun_induction overlaps count since events with
  | case1 => simp at hmem
  | case2 count since time rest ih =>
      obtain ⟨hlt, hstart | ⟨e, he, hstart⟩⟩ := ih hmem
      · refine ⟨hlt, ?_⟩
        split at hstart
        · exact .inr ⟨_, List.mem_cons_self, Option.some.inj hstart⟩
        · exact .inl hstart
      · exact ⟨hlt, .inr ⟨e, List.mem_cons_of_mem _ he, hstart⟩⟩
  | case3 since time rest ih =>
      rcases List.mem_append.mp hmem with hmem | hmem
      · obtain ⟨hsince, -, hlt⟩ := mem_stretch.mp hmem
        exact ⟨hlt, .inl hsince⟩
      · obtain ⟨hlt, hstart | ⟨e, he, hstart⟩⟩ := ih hmem
        · cases hstart
        · exact ⟨hlt, .inr ⟨e, List.mem_cons_of_mem _ he, hstart⟩⟩
  | case4 count since time rest hne ih =>
      obtain ⟨hlt, hstart | ⟨e, he, hstart⟩⟩ := ih hmem
      · exact ⟨hlt, .inl hstart⟩
      · exact ⟨hlt, .inr ⟨e, List.mem_cons_of_mem _ he, hstart⟩⟩

theorem overlaps_change {a b : Bool} {since : Option Instant} (hsince : since.isSome = (a && b))
    {e : Event} (hopens : e.opens = !a) (rest : List Event) :
    overlaps (a.toNat + b.toNat) since (e :: rest) =
      (if a && b then stretch since e.time else []) ++
        overlaps ((!a).toNat + b.toNat) (if !a && b then some e.time else none) rest := by
  obtain ⟨time, opens⟩ := e
  cases hopens
  cases a <;> cases b <;> simp_all [overlaps]

/-! ### Whose change an event is -/

/-- Whose change an event is; the ceasing at the end is told apart from the other changes. -/
inductive Origin where
  | ours
  | theirs
  | closing
  deriving DecidableEq

def tagged (finish : Instant) (origin : Origin) (view : List (Instant × Bool)) :
    List (Origin × Event) :=
  (changes false view).map (Prod.mk origin) ++
    if openAfter false view then [(.closing, ⟨finish, false⟩)] else []

def eventsOf (origin : Origin) (tagged : List (Origin × Event)) : List Event :=
  (tagged.filter (·.1 = origin)).map Prod.snd

/-- The events of two relays in the order in which they are swept. -/
def schedule (finish : Instant) (ours theirs : List (Instant × Bool)) : List (Origin × Event) :=
  Instant.sortBy (fun p => p.2.time) (tagged finish .ours ours ++ tagged finish .theirs theirs)

theorem map_snd_tagged (finish : Instant) (origin : Origin) (view : List (Instant × Bool)) :
    (tagged finish origin view).map Prod.snd = events finish view := by
  rw [tagged, List.map_append, List.map_map, events]
  split <;> simp [Function.comp_def]

theorem map_snd_schedule (finish : Instant) (ours theirs : List (Instant × Bool)) :
    (schedule finish ours theirs).map Prod.snd =
      Instant.sortBy Event.time (events finish ours ++ events finish theirs) := by
  rw [schedule, Instant.map_sortBy, List.map_append, map_snd_tagged, map_snd_tagged]

theorem eventsOf_tagged (finish : Instant) {origin other : Origin} (horigin : origin ≠ .closing)
    (view : List (Instant × Bool)) :
    eventsOf origin (tagged finish other view) =
      if other = origin then changes false view else [] := by
  rw [eventsOf, tagged, List.filter_append, List.map_append, List.filter_map, List.map_map]
  have hclosing : List.filter (fun p => decide (p.1 = origin))
      (if openAfter false view then [(Origin.closing, (⟨finish, false⟩ : Event))] else []) =
        [] := by
    split <;> simp [horigin.symm]
  rw [hclosing]
  by_cases heq : other = origin <;> simp [heq, Function.comp_def]

theorem eventsOf_append (origin : Origin) (before after : List (Origin × Event)) :
    eventsOf origin (before ++ after) = eventsOf origin before ++ eventsOf origin after := by
  rw [eventsOf, List.filter_append, List.map_append, eventsOf, eventsOf]

theorem eventsOf_filter (p : Event → Bool) (origin : Origin) (tagged : List (Origin × Event)) :
    eventsOf origin (tagged.filter fun q => p q.2) = (eventsOf origin tagged).filter p := by
  rw [eventsOf, eventsOf, List.filter_map, List.filter_filter, List.filter_filter]
  congr 2
  funext q
  exact Bool.and_comm _ _

/-- The changes of one relay are swept in their own order. -/
theorem eventsOf_schedule {finish : Instant} {ours theirs view : List (Instant × Bool)}
    {origin : Origin}
    (hview : eventsOf origin (tagged finish .ours ours ++ tagged finish .theirs theirs) =
      changes false view)
    (hsorted : view.Pairwise fun p q => p.1 ≤ q.1) :
    eventsOf origin (schedule finish ours theirs) = changes false view := by
  have htimes : ((changes false view).map (·.time)).Pairwise (· ≤ ·) :=
    (List.pairwise_map.mpr hsorted).sublist (times_changes_sublist false view)
  rw [← hview, eventsOf, List.map_map, List.pairwise_map] at htimes
  rw [← hview]
  exact congrArg (List.map Prod.snd) (Instant.filter_sortBy _ _ htimes)

/-! ### Before and after an instant -/

section Instant

variable {finish t : Instant} {view ours theirs : List (Instant × Bool)}

/-- The state of a declaration at an instant. -/
def openAt (view : List (Instant × Bool)) (t : Instant) : Bool :=
  openAfter false (view.filter fun p => p.1 ≤ t)

theorem time_of_mem_changes {isOpen : Bool} {e : Event} (he : e ∈ changes isOpen view) :
    ∃ p ∈ view, p.1 = e.time :=
  List.mem_map.mp ((times_changes_sublist isOpen view).subset (List.mem_map_of_mem he))

theorem changes_eq_append (hsorted : view.Pairwise fun p q => p.1 ≤ q.1) (t : Instant) :
    changes false view = changes false (view.filter fun p => p.1 ≤ t) ++
      changes (openAt view t) (view.filter fun p => t < p.1) := by
  rw [openAt, ← changes_append, Instant.filter_le_append_filter_lt Prod.fst hsorted t]

theorem filter_changes_eq_self {p : Instant → Bool} {isOpen : Bool}
    (hview : ∀ q ∈ view, p q.1 = true) :
    (changes isOpen view).filter (fun e => p e.time) = changes isOpen view := by
  rw [List.filter_eq_self]
  intro e he
  obtain ⟨q, hq, htime⟩ := time_of_mem_changes he
  exact htime ▸ hview q hq

theorem filter_changes_eq_nil {p : Instant → Bool} {isOpen : Bool}
    (hview : ∀ q ∈ view, p q.1 = false) :
    (changes isOpen view).filter (fun e => p e.time) = [] := by
  rw [List.filter_eq_nil_iff]
  intro e he
  obtain ⟨q, hq, htime⟩ := time_of_mem_changes he
  simp [← htime, hview q hq]

theorem filter_le_changes (hsorted : view.Pairwise fun p q => p.1 ≤ q.1) (t : Instant) :
    (changes false view).filter (fun e => e.time ≤ t) =
      changes false (view.filter fun p => p.1 ≤ t) := by
  rw [changes_eq_append hsorted t, List.filter_append,
    filter_changes_eq_self (p := fun u => u ≤ t) fun q hq => (List.mem_filter.mp hq).2,
    filter_changes_eq_nil (p := fun u => u ≤ t), List.append_nil]
  intro q hq
  simpa using Instant.not_le.mpr (of_decide_eq_true (List.mem_filter.mp hq).2)

theorem filter_lt_changes (hsorted : view.Pairwise fun p q => p.1 ≤ q.1) (t : Instant) :
    (changes false view).filter (fun e => t < e.time) =
      changes (openAt view t) (view.filter fun p => t < p.1) := by
  rw [changes_eq_append hsorted t, List.filter_append,
    filter_changes_eq_self (p := fun u => t < u) fun q hq => (List.mem_filter.mp hq).2,
    filter_changes_eq_nil (p := fun u => t < u), List.nil_append]
  intro q hq
  simpa using Instant.not_lt.mpr (of_decide_eq_true (List.mem_filter.mp hq).2)

/-- The sweep takes two declarations from one state to another with no stretch that passes `t`. -/
def Sweeps (t : Instant) (since : Option Instant) (a b : Bool) (early later : List Event)
    (a' b' : Bool) : Prop :=
  ∃ before since', overlaps (a.toNat + b.toNat) since (early ++ later) =
      before ++ overlaps (a'.toNat + b'.toNat) since' later ∧
    (∀ i ∈ before, i.stop ≤ t) ∧ since'.isSome = (a' && b') ∧ ∀ s ∈ since', s ≤ t

theorem Sweeps.symm {since : Option Instant} {a b a' b' : Bool} {early later : List Event}
    (h : Sweeps t since a b early later a' b') : Sweeps t since b a early later b' a' := by
  rw [Sweeps] at h ⊢
  rwa [Nat.add_comm, Nat.add_comm b'.toNat, Bool.and_comm]

theorem Sweeps.cons {since : Option Instant} {a b a' b' : Bool} {early later : List Event}
    {e : Event} (hopens : e.opens = !a) (htime : e.time ≤ t) (hsince : since.isSome = (a && b))
    (h : Sweeps t (if !a && b then some e.time else none) (!a) b early later a' b') :
    Sweeps t since a b (e :: early) later a' b' := by
  obtain ⟨before, since', heq, hbefore, hsince', hle⟩ := h
  refine ⟨(if a && b then stretch since e.time else []) ++ before, since', ?_, ?_, hsince', hle⟩
  · rw [List.cons_append, overlaps_change hsince hopens, heq, List.append_assoc]
  · intro i hi
    rcases List.mem_append.mp hi with hi | hi
    · split at hi
      · exact (mem_stretch.mp hi).2.1 ▸ htime
      · simp at hi
    · exact hbefore i hi

/-- Up to an instant the sweep counts what is open. -/
theorem sweeps_early {early : List (Origin × Event)} {a a' b b' : Bool} {since : Option Instant}
    (hours : Alternates a (eventsOf .ours early) a')
    (htheirs : Alternates b (eventsOf .theirs early) b')
    (hearly : ∀ p ∈ early, p.1 ≠ .closing ∧ p.2.time ≤ t)
    (hsince : since.isSome = (a && b)) (hle : ∀ s ∈ since, s ≤ t) (later : List Event) :
    Sweeps t since a b (early.map Prod.snd) later a' b' := by
  induction early generalizing a b since with
  | nil =>
      cases hours
      cases htheirs
      exact ⟨[], since, rfl, by simp, hsince, hle⟩
  | cons p early ih =>
      obtain ⟨hclosing, htime⟩ := hearly p List.mem_cons_self
      have htail := fun q hq => hearly q (List.mem_cons_of_mem p hq)
      have hle : ∀ condition : Bool, ∀ s ∈ if condition then some p.2.time else none, s ≤ t := by
        intro condition s hs
        cases condition <;> simp_all
      obtain ⟨origin, e⟩ := p
      cases origin with
      | ours =>
          cases hours with
          | cons hopens hrest =>
              refine .cons hopens htime hsince (ih (hopens ▸ hrest) htheirs htail ?_ (hle _))
              cases a <;> cases b <;> rfl
      | theirs =>
          cases htheirs with
          | cons hopens hrest =>
              refine .symm (.cons hopens htime (Bool.and_comm a b ▸ hsince) (.symm ?_))
              refine ih hours (hopens ▸ hrest) htail ?_ (hle _)
              cases a <;> cases b <;> rfl
      | closing => exact absurd rfl hclosing

theorem countP_overlaps_none {later : List Event} (hlater : ∀ e ∈ later, t < e.time)
    (count : Nat) : (overlaps count none later).countP (·.contains t) = 0 := by
  rw [List.countP_eq_zero]
  intro i hi
  obtain ⟨-, hstart | ⟨e, he, hstart⟩⟩ := mem_overlaps hi
  · cases hstart
  · have hlt : t < i.start := hstart ▸ hlater e he
    simp [Interval.contains, Instant.not_le.mpr hlt]

/-- The first event after an instant at which both declare closes their stretch. -/
theorem countP_overlaps_some {e : Event} {later : List Event}
    (hlater : ∀ e' ∈ e :: later, t < e'.time) (hcloses : e.opens = false) {s : Instant}
    (hs : s ≤ t) : (overlaps 2 (some s) (e :: later)).countP (·.contains t) = 1 := by
  obtain ⟨time, opens⟩ := e
  cases hcloses
  have hlt : t < time := hlater ⟨time, false⟩ List.mem_cons_self
  rw [overlaps, if_pos rfl, stretch, if_pos (Instant.lt_of_le_of_lt hs hlt), List.countP_append,
    countP_overlaps_none (fun e he => hlater e (List.mem_cons_of_mem _ he))]
  simp [Interval.contains, hs, hlt]

theorem openAfter_eq_openAfter_openAt (hsorted : view.Pairwise fun p q => p.1 ≤ q.1)
    (t : Instant) :
    openAfter false view = openAfter (openAt view t) (view.filter fun p => t < p.1) := by
  rw [openAt, ← openAfter_append, Instant.filter_le_append_filter_lt Prod.fst hsorted t]

end Instant

/-! ### The schedule of two relays -/

section Schedule

variable {finish t : Instant} {ours theirs : List (Instant × Bool)}

theorem eventsOf_ours_schedule (hours : ours.Pairwise fun p q => p.1 ≤ q.1) :
    eventsOf .ours (schedule finish ours theirs) = changes false ours := by
  refine eventsOf_schedule ?_ hours
  rw [eventsOf_append, eventsOf_tagged finish (by simp), eventsOf_tagged finish (by simp)]
  simp

theorem eventsOf_theirs_schedule (htheirs : theirs.Pairwise fun p q => p.1 ≤ q.1) :
    eventsOf .theirs (schedule finish ours theirs) = changes false theirs := by
  refine eventsOf_schedule ?_ htheirs
  rw [eventsOf_append, eventsOf_tagged finish (by simp), eventsOf_tagged finish (by simp)]
  simp

theorem mem_schedule_closing {e : Event} :
    (.closing, e) ∈ schedule finish ours theirs ↔
      (openAfter false ours = true ∨ openAfter false theirs = true) ∧ e = ⟨finish, false⟩ := by
  have htagged : ∀ {origin : Origin} {view : List (Instant × Bool)}, origin ≠ .closing →
      ((.closing, e) ∈ tagged finish origin view ↔
        openAfter false view = true ∧ e = ⟨finish, false⟩) := by
    intro origin view horigin
    rw [tagged, List.mem_append]
    split <;> simp_all
  rw [schedule, Instant.mem_sortBy, List.mem_append, htagged (by simp), htagged (by simp),
    or_and_right]

/-- What is swept by `t`, and what is swept later. -/
theorem schedule_eq_append (t : Instant) :
    (schedule finish ours theirs).filter (fun p => p.2.time ≤ t) ++
      (schedule finish ours theirs).filter (fun p => t < p.2.time) =
        schedule finish ours theirs :=
  Instant.filter_le_append_filter_lt _ (Instant.pairwise_sortBy _ _) t

theorem sweeps_schedule (ht : t < finish) (hours : ours.Pairwise fun p q => p.1 ≤ q.1)
    (htheirs : theirs.Pairwise fun p q => p.1 ≤ q.1) (later : List Event) :
    Sweeps t none false false
      (((schedule finish ours theirs).filter fun p => p.2.time ≤ t).map Prod.snd) later
      (openAt ours t) (openAt theirs t) := by
  refine sweeps_early ?_ ?_ ?_ rfl (by simp) later
  · rw [eventsOf_filter fun e => e.time ≤ t, eventsOf_ours_schedule hours,
      filter_le_changes hours]
    exact alternates_changes _ _
  · rw [eventsOf_filter fun e => e.time ≤ t, eventsOf_theirs_schedule htheirs,
      filter_le_changes htheirs]
    exact alternates_changes _ _
  · rintro ⟨origin, e⟩ hp
    obtain ⟨hmem, htime⟩ := List.mem_filter.mp hp
    have hle : e.time ≤ t := by simpa using htime
    refine ⟨?_, hle⟩
    rintro rfl
    obtain ⟨-, rfl⟩ := mem_schedule_closing.mp hmem
    exact Instant.not_lt.mpr hle ht

/-- If both relays declare each other, there is a next event, and it is that one of them ceases. -/
theorem later_schedule (ht : t < finish) (hours : ours.Pairwise fun p q => p.1 ≤ q.1)
    (htheirs : theirs.Pairwise fun p q => p.1 ≤ q.1) (hopen : openAt ours t = true)
    (hopen' : openAt theirs t = true) :
    ∃ e rest, e.opens = false ∧
      ((schedule finish ours theirs).filter fun p => t < p.2.time).map Prod.snd = e :: rest := by
  have hafter : Alternates true
      (eventsOf .ours ((schedule finish ours theirs).filter fun p => t < p.2.time))
      (openAfter false ours) := by
    rw [eventsOf_filter fun e => t < e.time, eventsOf_ours_schedule hours,
      filter_lt_changes hours, openAfter_eq_openAfter_openAt hours t, hopen]
    exact alternates_changes _ _
  have hafter' : Alternates true
      (eventsOf .theirs ((schedule finish ours theirs).filter fun p => t < p.2.time))
      (openAfter false theirs) := by
    rw [eventsOf_filter fun e => t < e.time, eventsOf_theirs_schedule htheirs,
      filter_lt_changes htheirs, openAfter_eq_openAfter_openAt htheirs t, hopen']
    exact alternates_changes _ _
  cases hlater : (schedule finish ours theirs).filter (fun p => t < p.2.time) with
  | nil =>
      -- With no changes left what is open ceases at `finish`.
      rw [hlater] at hafter
      have hclosing : (.closing, ⟨finish, false⟩) ∈ schedule finish ours theirs :=
        mem_schedule_closing.mpr ⟨.inl hafter.eq_of_nil.symm, rfl⟩
      exact absurd ht (by simpa using List.filter_eq_nil_iff.mp hlater _ hclosing)
  | cons p later =>
      obtain ⟨origin, e⟩ := p
      refine ⟨e, later.map Prod.snd, ?_, rfl⟩
      rw [hlater] at hafter hafter'
      cases origin with
      | ours =>
          cases hafter with
          | cons hopens => exact hopens
      | theirs =>
          cases hafter' with
          | cons hopens => exact hopens
      | closing =>
          have hmem : (Origin.closing, e) ∈ schedule finish ours theirs :=
            (List.mem_filter.mp (hlater ▸ List.mem_cons_self)).1
          obtain ⟨-, rfl⟩ := mem_schedule_closing.mp hmem
          rfl

/-- An instant lies in one stretch if both relays declare each other, and in none otherwise. -/
theorem countP_shared (ht : t < finish) (hours : ours.Pairwise fun p q => p.1 ≤ q.1)
    (htheirs : theirs.Pairwise fun p q => p.1 ≤ q.1) :
    (shared finish ours theirs).countP (·.contains t) =
      if openAt ours t && openAt theirs t then 1 else 0 := by
  rw [shared, ← map_snd_schedule, ← schedule_eq_append t, List.map_append]
  have hlater : ∀ e ∈ ((schedule finish ours theirs).filter fun p => t < p.2.time).map Prod.snd,
      t < e.time := by
    intro e he
    obtain ⟨p, hp, rfl⟩ := List.mem_map.mp he
    simpa using (List.mem_filter.mp hp).2
  obtain ⟨before, since, heq, hbefore, hsince, hle⟩ := sweeps_schedule ht hours htheirs
    (((schedule finish ours theirs).filter fun p => t < p.2.time).map Prod.snd)
  have hnone : before.countP (·.contains t) = 0 := by
    rw [List.countP_eq_zero]
    intro i hi
    simp [Interval.contains, Instant.not_lt.mpr (hbefore i hi)]
  rw [Bool.toNat_false, Nat.add_zero] at heq
  rw [heq, List.countP_append, hnone, Nat.zero_add]
  split
  · rename_i hboth
    obtain ⟨hopen, hopen'⟩ := Bool.and_eq_true_iff.mp hboth
    obtain ⟨s, rfl⟩ := Option.isSome_iff_exists.mp (hsince.trans hboth)
    obtain ⟨e, rest, hcloses, hrest⟩ := later_schedule ht hours htheirs hopen hopen'
    rw [hrest] at hlater ⊢
    rw [hopen, hopen']
    exact countP_overlaps_some hlater hcloses (hle s rfl)
  · rename_i hboth
    have hsince : since = none := by simpa [hboth] using hsince
    rw [hsince]
    exact countP_overlaps_none hlater _

/-! ### A relay that declares nothing -/

theorem changes_eq_nil {view : List (Instant × Bool)} (hsilent : ∀ p ∈ view, p.2 = false) :
    changes false view = [] := by
  induction view with
  | nil => rfl
  | cons p view ih =>
      obtain ⟨time, declares⟩ := p
      cases hsilent (time, declares) List.mem_cons_self
      exact ih fun p hp => hsilent p (List.mem_cons_of_mem _ hp)

theorem openAfter_eq_false {view : List (Instant × Bool)} (hsilent : ∀ p ∈ view, p.2 = false) :
    openAfter false view = false := by
  cases hlast : view.getLast? with
  | none => simp [openAfter, hlast]
  | some p => simpa [openAfter, hlast] using hsilent p (List.mem_of_getLast? hlast)

theorem events_eq_nil {view : List (Instant × Bool)} (hsilent : ∀ p ∈ view, p.2 = false) :
    events finish view = [] := by
  rw [events, changes_eq_nil hsilent, openAfter_eq_false hsilent]
  rfl

/-- The part of a view in which nothing is declared does not count at its beginning. -/
theorem events_append_of_silent {before : List (Instant × Bool)}
    (hsilent : ∀ p ∈ before, p.2 = false) (view : List (Instant × Bool)) :
    events finish (before ++ view) = events finish view := by
  rw [events, events, changes_append, openAfter_append, changes_eq_nil hsilent,
    openAfter_eq_false hsilent, List.nil_append]

/-- The events of one relay never count two declarations. -/
theorem overlaps_eq_nil {swept : List (Origin × Event)} {b last : Bool} {count : Nat}
    (hcount : count ≤ b.toNat) (htheirs : Alternates b (eventsOf .theirs swept) last)
    (hswept : ∀ p ∈ swept, p.1 ≠ .ours ∧ (p.1 = .closing → p.2.opens = false)) :
    overlaps count none (swept.map Prod.snd) = [] := by
  induction swept generalizing b count with
  | nil => rfl
  | cons p swept ih =>
      obtain ⟨origin, time, opens⟩ := p
      obtain ⟨hours, hclosing⟩ := hswept _ List.mem_cons_self
      have htail := fun q hq => hswept q (List.mem_cons_of_mem _ hq)
      have hcloses : ∀ {b : Bool}, Alternates b (eventsOf .theirs swept) last → count ≤ 1 →
          count - 1 ≤ b.toNat →
          overlaps count none (⟨time, false⟩ :: swept.map Prod.snd) = [] := by
        intro b halternates hle hpred
        rw [overlaps, if_neg (by omega)]
        exact ih hpred halternates htail
      cases origin with
      | ours => exact absurd rfl hours
      | theirs =>
          cases htheirs with
          | cons hopens hrest =>
              cases b with
              | true =>
                  cases hopens
                  exact hcloses hrest hcount (Nat.sub_le_sub_right hcount 1)
              | false =>
                  cases hopens
                  have hzero : count = 0 := by simpa using hcount
                  rw [List.map_cons, overlaps, hzero, if_neg (by decide)]
                  exact ih (by simp) hrest htail
      | closing =>
          cases hclosing rfl
          have := b.toNat_le
          exact hcloses htheirs (by omega) (by omega)

theorem overlaps_events {view : List (Instant × Bool)}
    (hsorted : view.Pairwise fun p q => p.1 ≤ q.1) :
    overlaps 0 none (Instant.sortBy Event.time (events finish view)) = [] := by
  have hview : events finish view = events finish [] ++ events finish view := rfl
  rw [hview, ← map_snd_schedule]
  have htheirs : Alternates false (eventsOf .theirs (schedule finish [] view))
      (openAfter false view) := by
    rw [eventsOf_theirs_schedule hsorted]
    exact alternates_changes false view
  refine overlaps_eq_nil (Nat.le_refl _) htheirs ?_
  rintro ⟨origin, e⟩ hp
  refine ⟨?_, ?_⟩
  · rintro rfl
    have hmem : e ∈ eventsOf .ours (schedule finish [] view) :=
      List.mem_map.mpr ⟨_, List.mem_filter.mpr ⟨hp, by simp⟩, rfl⟩
    rw [eventsOf_ours_schedule List.Pairwise.nil] at hmem
    cases hmem
  · rintro rfl
    obtain ⟨-, rfl⟩ := mem_schedule_closing.mp hp
    rfl

theorem shared_eq_nil_of_left (hsilent : ∀ p ∈ ours, p.2 = false)
    (htheirs : theirs.Pairwise fun p q => p.1 ≤ q.1) : shared finish ours theirs = [] := by
  rw [shared, events_eq_nil hsilent]
  exact overlaps_events htheirs

theorem shared_eq_nil_of_right (hsilent : ∀ p ∈ theirs, p.2 = false)
    (hours : ours.Pairwise fun p q => p.1 ≤ q.1) : shared finish ours theirs = [] := by
  rw [shared, events_eq_nil hsilent, List.append_nil]
  exact overlaps_events hours

end Schedule

end RelaySnapshot.Family
