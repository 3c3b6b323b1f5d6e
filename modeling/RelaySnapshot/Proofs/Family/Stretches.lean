import RelaySnapshot.Proofs.Family.Sweep

namespace RelaySnapshot.Family

/-! ### One event of a sweep -/

def tallied (count : Nat) (e : Event) : Nat :=
  if e.opens then count + 1 else count - 1

def began (count : Nat) (since : Option Instant) (e : Event) : Option Instant :=
  if e.opens then if count + 1 = 2 then some e.time else since
  else if count = 2 then none else since

def ended (count : Nat) (since : Option Instant) (e : Event) : List Interval :=
  if e.opens = false ∧ count = 2 then stretch since e.time else []

theorem overlaps_cons (count : Nat) (since : Option Instant) (e : Event) (rest : List Event) :
    overlaps count since (e :: rest) =
      ended count since e ++ overlaps (tallied count e) (began count since e) rest := by
  obtain ⟨time, opens⟩ := e
  cases opens with
  | true => rfl
  | false =>
      by_cases hcount : count = 2
      · subst hcount
        rfl
      · simp [overlaps, ended, tallied, began, hcount]

theorem mem_ended {count : Nat} {since : Option Instant} {e : Event} {i : Interval} :
    i ∈ ended count since e ↔
      e.opens = false ∧ count = 2 ∧ since = some i.start ∧ i.stop = e.time ∧ i.start < i.stop := by
  rw [ended]
  split
  · rename_i hends
    rw [mem_stretch]
    simp [hends]
  · rename_i hends
    constructor
    · exact fun hmem => absurd hmem List.not_mem_nil
    · exact fun h => absurd ⟨h.1, h.2.1⟩ hends

theorem exists_events_of_mem_overlaps {count : Nat} {since : Option Instant} {events : List Event}
    {i : Interval} (hmem : i ∈ overlaps count since events) :
    (since = some i.start ∨ ∃ e ∈ events, e.opens = true ∧ e.time = i.start) ∧
      ∃ e ∈ events, e.opens = false ∧ e.time = i.stop := by
  induction events generalizing count since with
  | nil => cases hmem
  | cons first rest ih =>
      rw [overlaps_cons] at hmem
      rcases List.mem_append.mp hmem with hmem | hmem
      · obtain ⟨hcloses, -, hsince, hstop, -⟩ := mem_ended.mp hmem
        exact ⟨.inl hsince, first, List.mem_cons_self, hcloses, hstop.symm⟩
      · obtain ⟨hstart, e, he, hstop⟩ := ih hmem
        refine ⟨?_, e, List.mem_cons_of_mem _ he, hstop⟩
        rcases hstart with hbegan | ⟨e, he, hstart⟩
        · rw [began] at hbegan
          split_ifs at hbegan with hopens
          · exact .inr ⟨first, List.mem_cons_self, hopens, Option.some.inj hbegan⟩
          · exact .inl hbegan
          · exact .inl hbegan
        · exact .inr ⟨e, List.mem_cons_of_mem _ he, hstart⟩

/-! ### What is open and what is counted -/

theorem Alternates.unique {isOpen last last' : Bool} {events : List Event}
    (h : Alternates isOpen events last) (h' : Alternates isOpen events last') : last = last' := by
  induction h with
  | nil => exact h'.eq_of_nil
  | cons _ _ ih =>
      cases h' with
      | cons _ hrest => exact ih hrest

/-- While a declaration is open, an event that opens has one before it that closes. -/
theorem Alternates.exists_sublist {events : List Event} {last : Bool} {e : Event}
    (h : Alternates true events last) (he : e ∈ events) (hopens : e.opens = true) :
    ∃ e', [e', e].Sublist events := by
  cases h with
  | nil => cases he
  | @cons _ _ e' rest hcloses hrest =>
      rcases List.mem_cons.mp he with rfl | he
      · exact absurd hopens (by simp [hcloses])
      · exact ⟨e', (List.singleton_sublist.mpr he).cons_cons e'⟩

theorem eventsOf_cons (origin : Origin) (p : Origin × Event) (rest : List (Origin × Event)) :
    eventsOf origin (p :: rest) =
      if p.1 = origin then p.2 :: eventsOf origin rest else eventsOf origin rest := by
  rw [eventsOf, List.filter_cons]
  by_cases heq : p.1 = origin <;> simp [heq, eventsOf]

theorem eventsOf_sublist_cons (origin : Origin) (p : Origin × Event)
    (rest : List (Origin × Event)) : (eventsOf origin rest).Sublist (eventsOf origin (p :: rest)) :=
  ((List.sublist_cons_self p rest).filter _).map _

theorem mem_eventsOf {origin : Origin} {e : Event} {swept : List (Origin × Event)} :
    e ∈ eventsOf origin swept ↔ (origin, e) ∈ swept := by
  simp [eventsOf, and_comm]

/-- The states of the two declarations before some events, and how many of them are counted. -/
structure Tally (count : Nat) (isOpen : Origin → Bool) (swept : List (Origin × Event)) : Prop where
  alternates : ∀ origin, origin ≠ .closing →
    ∃ last, Alternates (isOpen origin) (eventsOf origin swept) last
  closing : ∀ e, (.closing, e) ∈ swept → e.opens = false
  count_le : count ≤ (isOpen .ours).toNat + (isOpen .theirs).toNat

section Tally

variable {count : Nat} {since : Option Instant} {isOpen : Origin → Bool} {p : Origin × Event}
variable {rest swept early later : List (Origin × Event)} {t : Instant}

theorem Tally.open_of_le (h : Tally count isOpen swept) (hcount : 2 ≤ count) {origin : Origin}
    (horigin : origin ≠ .closing) : isOpen origin = true := by
  have hle := h.count_le
  have hours := (isOpen .ours).toNat_le
  have htheirs := (isOpen .theirs).toNat_le
  cases origin with
  | closing => exact absurd rfl horigin
  | ours => exact Bool.toNat_eq_one.mp (by omega)
  | theirs => exact Bool.toNat_eq_one.mp (by omega)

theorem Tally.cons (h : Tally count isOpen (p :: rest)) :
    ∃ isOpen', Tally (tallied count p.2) isOpen' rest ∧
      ∀ origin, origin ≠ .closing → Alternates (isOpen origin) (eventsOf origin [p])
        (isOpen' origin) := by
  obtain ⟨origin, e⟩ := p
  have hclosing := fun e he => h.closing e (List.mem_cons_of_mem _ he)
  have hcount := h.count_le
  by_cases horigin : origin = .closing
  · -- What ceases at the end changes no state.
    subst horigin
    have hcloses := h.closing e List.mem_cons_self
    refine ⟨isOpen, ⟨fun other hother => ?_, hclosing, ?_⟩, fun other hother => ?_⟩
    · obtain ⟨last, hlast⟩ := h.alternates other hother
      rw [eventsOf_cons, if_neg hother.symm] at hlast
      exact ⟨last, hlast⟩
    · rw [tallied, hcloses, if_neg Bool.false_ne_true]
      omega
    · rw [eventsOf_cons, if_neg hother.symm]
      exact .nil _
  · obtain ⟨last, hlast⟩ := h.alternates origin horigin
    rw [eventsOf_cons, if_pos rfl] at hlast
    obtain ⟨hopens, hrest⟩ : e.opens = !isOpen origin ∧
        Alternates e.opens (eventsOf origin rest) last := by
      cases hlast with
      | cons hopens hrest => exact ⟨hopens, hrest⟩
    refine ⟨Function.update isOpen origin e.opens, ⟨fun other hother => ?_, hclosing, ?_⟩,
      fun other hother => ?_⟩
    · by_cases hsame : other = origin
      · subst hsame
        rw [Function.update_self]
        exact ⟨last, hrest⟩
      · obtain ⟨last, hlast⟩ := h.alternates other hother
        rw [eventsOf_cons, if_neg (Ne.symm hsame)] at hlast
        rw [Function.update_of_ne hsame]
        exact ⟨last, hlast⟩
    · rw [tallied, hopens]
      cases origin with
      | closing => exact absurd rfl horigin
      | ours =>
          rw [Function.update_self, Function.update_of_ne (by simp)]
          cases hours : isOpen .ours <;> simp [hours] at hcount ⊢ <;> omega
      | theirs =>
          rw [Function.update_self, Function.update_of_ne (by simp)]
          cases htheirs : isOpen .theirs <;> simp [htheirs] at hcount ⊢ <;> omega
    · rw [eventsOf_cons]
      by_cases hsame : other = origin
      · subst hsame
        rw [if_pos rfl, Function.update_self]
        exact .cons hopens (.nil _)
      · rw [if_neg (Ne.symm hsame), Function.update_of_ne hsame]
        exact .nil _

theorem two_le_of_began (hsince : since.isSome = true → 2 ≤ count) {e : Event}
    (hbegan : (began count since e).isSome = true) : 2 ≤ tallied count e := by
  rw [began] at hbegan
  rw [tallied]
  split_ifs at hbegan ⊢ with hopens hcount
  · omega
  · have := hsince hbegan
    omega
  · cases hbegan
  · have := hsince hbegan
    omega

theorem Alternates.append {isOpen middle last : Bool} {before after : List Event}
    (h : Alternates isOpen before middle) (h' : Alternates middle after last) :
    Alternates isOpen (before ++ after) last := by
  induction h with
  | nil => exact h'
  | cons hopens _ ih => exact .cons hopens (ih h')

/-- After the events up to an instant, what began and is not over has two open declarations. -/
theorem Tally.run (h : Tally count isOpen (early ++ later))
    (hsince : since.isSome = true → 2 ≤ count) (hearly : ∀ p ∈ early, p.2.time ≤ t) :
    ∃ before count' since' isOpen',
      overlaps count since ((early ++ later).map Prod.snd) =
        before ++ overlaps count' since' (later.map Prod.snd) ∧
      (∀ i ∈ before, i.stop ≤ t) ∧ (since'.isSome = true → 2 ≤ count') ∧
      Tally count' isOpen' later ∧
      ∀ origin, origin ≠ .closing → Alternates (isOpen origin) (eventsOf origin early)
        (isOpen' origin) := by
  induction early generalizing count since isOpen with
  | nil => exact ⟨[], count, since, isOpen, rfl, by simp, hsince, h, fun _ _ => .nil _⟩
  | cons p early ih =>
      obtain ⟨isOpen', hnext, hstep⟩ := Tally.cons h
      obtain ⟨before, count', since', isOpen'', heq, hbefore, hsince', htally, halternates⟩ :=
        ih hnext (two_le_of_began hsince) fun q hq => hearly q (List.mem_cons_of_mem _ hq)
      refine ⟨ended count since p.2 ++ before, count', since', isOpen'', ?_, ?_, hsince', htally,
        fun origin horigin => ?_⟩
      · rw [List.cons_append, List.map_cons, overlaps_cons, heq, List.append_assoc]
      · intro i hi
        rcases List.mem_append.mp hi with hi | hi
        · obtain ⟨-, -, -, hstop, -⟩ := mem_ended.mp hi
          exact hstop ▸ hearly p List.mem_cons_self
        · exact hbefore i hi
      · have happend := (hstep origin horigin).append (halternates origin horigin)
        rwa [← eventsOf_append] at happend

/-! ### Stretches that touch -/

def Twice (times : List Instant) (t : Instant) : Prop :=
  [t, t].Sublist times

/-- A stretch ends before another one begins, or as it begins if a relay changes twice then. -/
def Apart (swept : List (Origin × Event)) (i j : Interval) : Prop :=
  i.stop < j.start ∨ i.stop = j.start ∧
    ∃ origin, origin ≠ .closing ∧ Twice ((eventsOf origin swept).map (·.time)) i.stop

theorem Apart.cons {i j : Interval} (h : Apart rest i j) (p : Origin × Event) :
    Apart (p :: rest) i j := by
  refine h.imp_right fun ⟨heq, origin, horigin, htwice⟩ => ⟨heq, origin, horigin, ?_⟩
  exact htwice.trans ((eventsOf_sublist_cons origin p rest).map _)

/-- A relay that is open and opens later has closed in between. -/
theorem Tally.twice (h : Tally 2 isOpen (p :: rest))
    (hsorted : (p :: rest).Pairwise fun p q => p.2.time ≤ q.2.time) {origin : Origin} {e : Event}
    (hmem : (origin, e) ∈ rest) (hopens : e.opens = true) (htime : e.time = p.2.time) :
    origin ≠ .closing ∧ Twice ((eventsOf origin (p :: rest)).map (·.time)) p.2.time := by
  have horigin : origin ≠ .closing := by
    rintro rfl
    have hcloses := h.closing e (List.mem_cons_of_mem _ hmem)
    exact absurd hopens (by simp [hcloses])
  obtain ⟨last, hlast⟩ := h.alternates origin horigin
  rw [h.open_of_le le_rfl horigin] at hlast
  obtain ⟨e', hsub⟩ := hlast.exists_sublist (mem_eventsOf.mpr (List.mem_cons_of_mem _ hmem)) hopens
  have htimes : (eventsOf origin (p :: rest)).Pairwise fun e e' => e.time ≤ e'.time :=
    List.pairwise_map.mpr (hsorted.filter _)
  -- What closes stands between the two events, which have one time.
  have hle : e'.time ≤ p.2.time := by
    rw [← htime]
    exact List.rel_of_pairwise_cons (htimes.sublist hsub) (List.mem_singleton_self e)
  have hge : p.2.time ≤ e'.time := by
    have hfirst := mem_eventsOf.mp (hsub.subset List.mem_cons_self)
    rcases List.mem_cons.mp hfirst with rfl | hrest
    · exact Instant.le_refl e'.time
    · have hrel := List.rel_of_pairwise_cons hsorted hrest
      exact hrel
  have htwice := hsub.map (·.time)
  rw [List.map_cons, List.map_cons, htime, Instant.le_antisymm hle hge] at htwice
  exact ⟨horigin, htwice⟩

theorem Tally.apart (h : Tally 2 isOpen (p :: rest))
    (hsorted : (p :: rest).Pairwise fun p q => p.2.time ≤ q.2.time) {i j : Interval}
    (hi : i.stop = p.2.time) (hj : j ∈ overlaps 1 none (rest.map Prod.snd)) :
    Apart (p :: rest) i j := by
  obtain ⟨hstart, -⟩ := exists_events_of_mem_overlaps hj
  obtain ⟨e, he, hopens, htime⟩ := hstart.resolve_left (by simp)
  obtain ⟨⟨origin, e⟩, hmem, rfl⟩ := List.mem_map.mp he
  have hle : i.stop ≤ j.start := by
    rw [hi, ← htime]
    exact List.rel_of_pairwise_cons hsorted hmem
  by_cases hlt : i.stop < j.start
  · exact .inl hlt
  · have heq := Instant.le_antisymm hle (Instant.not_lt.mp hlt)
    have htwice := h.twice hsorted hmem hopens (htime.trans (heq.symm.trans hi))
    exact .inr ⟨heq, origin, hi ▸ htwice⟩

theorem Tally.pairwise (h : Tally count isOpen swept)
    (hsorted : swept.Pairwise fun p q => p.2.time ≤ q.2.time) :
    (overlaps count since (swept.map Prod.snd)).Pairwise (Apart swept) := by
  -- What is counted and since when varies, but a stretch that ends always leaves one and no start.
  induction swept generalizing count since isOpen with
  | nil => exact .nil
  | cons p rest ih =>
      obtain ⟨isOpen', hnext, -⟩ := h.cons
      rw [List.map_cons, overlaps_cons, List.pairwise_append]
      refine ⟨?_, (ih hnext hsorted.of_cons).imp fun happart => happart.cons p, ?_⟩
      · rw [ended]
        split
        · cases since with
          | none => exact .nil
          | some start =>
              rw [stretch]
              split
              · exact List.pairwise_singleton _ _
              · exact .nil
        · exact .nil
      · intro i hi j hj
        obtain ⟨hcloses, rfl, -, hstop, -⟩ := mem_ended.mp hi
        rw [tallied, began, hcloses] at hj
        exact h.apart hsorted hstop hj

end Tally

/-! ### The stretches of two relays -/

section Schedule

variable {finish t : Instant} {ours theirs view : List (Instant × Bool)} {i : Interval}

theorem tally_schedule (hours : ours.Pairwise fun p q => p.1 ≤ q.1)
    (htheirs : theirs.Pairwise fun p q => p.1 ≤ q.1) :
    Tally 0 (fun _ => false) (schedule finish ours theirs) where
  alternates := by
    intro origin horigin
    cases origin with
    | closing => exact absurd rfl horigin
    | ours =>
        rw [eventsOf_ours_schedule hours]
        exact ⟨_, alternates_changes false ours⟩
    | theirs =>
        rw [eventsOf_theirs_schedule htheirs]
        exact ⟨_, alternates_changes false theirs⟩
  closing := by
    intro e he
    obtain ⟨-, rfl⟩ := mem_schedule_closing.mp he
    rfl
  count_le := Nat.zero_le _

/-- All through a stretch both relays declare each other, also after the end of the month. -/
theorem openAt_of_mem_shared (hours : ours.Pairwise fun p q => p.1 ≤ q.1)
    (htheirs : theirs.Pairwise fun p q => p.1 ≤ q.1) (hi : i ∈ shared finish ours theirs)
    (hstart : i.start ≤ t) (hstop : t < i.stop) :
    openAt ours t = true ∧ openAt theirs t = true := by
  have hsplit : (schedule finish ours theirs).filter (fun p => p.2.time ≤ t) ++
      (schedule finish ours theirs).filter (fun p => t < p.2.time) = schedule finish ours theirs :=
    schedule_eq_append t
  rw [shared, ← map_snd_schedule, ← hsplit] at hi
  have htally : Tally 0 (fun _ => false) _ := hsplit ▸ tally_schedule hours htheirs
  have hnone : (none : Option Instant).isSome = true → 2 ≤ 0 := by simp
  obtain ⟨before, count, since, isOpen, heq, hbefore, hsince, hlater, halternates⟩ :=
    htally.run hnone fun p hp => of_decide_eq_true (List.mem_filter.mp hp).2
  rw [heq] at hi
  rcases List.mem_append.mp hi with hi | hi
  · exact absurd hstop (Instant.not_lt.mpr (hbefore i hi))
  · -- The stretch goes on later, but nothing later opens it, so it has begun.
    have hbegan : since = some i.start := by
      refine (exists_events_of_mem_overlaps hi).1.resolve_right ?_
      rintro ⟨e, he, -, htime⟩
      obtain ⟨p, hp, rfl⟩ := List.mem_map.mp he
      have hlt : t < p.2.time := of_decide_eq_true (List.mem_filter.mp hp).2
      exact absurd hstart (Instant.not_le.mpr (htime ▸ hlt))
    have hopen (origin : Origin) (horigin : origin ≠ .closing) : isOpen origin = true :=
      hlater.open_of_le (hsince (by simp [hbegan])) horigin
    have hours' := halternates .ours (by simp)
    have htheirs' := halternates .theirs (by simp)
    rw [eventsOf_filter fun e => e.time ≤ t, eventsOf_ours_schedule hours,
      filter_le_changes hours] at hours'
    rw [eventsOf_filter fun e => e.time ≤ t, eventsOf_theirs_schedule htheirs,
      filter_le_changes htheirs] at htheirs'
    exact ⟨(alternates_changes false _).unique hours' |>.trans (hopen .ours (by simp)),
      (alternates_changes false _).unique htheirs' |>.trans (hopen .theirs (by simp))⟩

theorem mem_of_mem_changes {isOpen : Bool} {e : Event} (he : e ∈ changes isOpen view) :
    (e.time, e.opens) ∈ view := by
  induction view generalizing isOpen with
  | nil => cases he
  | cons p view ih =>
      obtain ⟨time, declares⟩ := p
      rw [changes] at he
      split at he
      · exact List.mem_cons_of_mem _ (ih he)
      · rcases List.mem_cons.mp he with rfl | he
        · exact List.mem_cons_self
        · exact List.mem_cons_of_mem _ (ih he)

theorem mem_of_mem_events {e : Event} (he : e ∈ events finish view) :
    e.time = finish ∨ (e.time, e.opens) ∈ view := by
  rw [events] at he
  rcases List.mem_append.mp he with he | he
  · exact .inr (mem_of_mem_changes he)
  · split at he
    · exact .inl (List.mem_singleton.mp he ▸ rfl)
    · cases he

/-- A stretch ends with the month or where one of the relays no longer declares the other. -/
theorem stop_of_mem_shared (hi : i ∈ shared finish ours theirs) :
    i.stop = finish ∨ (i.stop, false) ∈ ours ∨ (i.stop, false) ∈ theirs := by
  obtain ⟨-, e, he, hcloses, htime⟩ := exists_events_of_mem_overlaps hi
  rw [← htime, ← hcloses]
  rcases List.mem_append.mp ((Instant.mem_sortBy _).mp he) with he | he
  · exact (mem_of_mem_events he).imp_right .inl
  · exact (mem_of_mem_events he).imp_right .inr

theorem pairwise_shared (finish : Instant) (hours : ours.Pairwise fun p q => p.1 ≤ q.1)
    (htheirs : theirs.Pairwise fun p q => p.1 ≤ q.1) :
    (shared finish ours theirs).Pairwise fun i j => i.stop < j.start ∨ i.stop = j.start ∧
      (Twice (ours.map Prod.fst) i.stop ∨ Twice (theirs.map Prod.fst) i.stop) := by
  rw [shared, ← map_snd_schedule]
  refine ((tally_schedule hours htheirs).pairwise (Instant.pairwise_sortBy _ _)).imp ?_
  intro i j happart
  refine happart.imp_right ?_
  rintro ⟨heq, origin, horigin, htwice⟩
  refine ⟨heq, ?_⟩
  cases origin with
  | closing => exact absurd rfl horigin
  | ours =>
      rw [eventsOf_ours_schedule hours] at htwice
      exact .inl (htwice.trans (times_changes_sublist false ours))
  | theirs =>
      rw [eventsOf_theirs_schedule htheirs] at htwice
      exact .inr (htwice.trans (times_changes_sublist false theirs))

/-- Where a relay ceases it no longer declares, unless it has that time twice. -/
theorem openAt_eq_false (hsorted : view.Pairwise fun p q => p.1 ≤ q.1)
    (hmem : (t, false) ∈ view) (honce : ¬Twice (view.map Prod.fst) t) : openAt view t = false := by
  obtain ⟨before, after, rfl⟩ := List.append_of_mem hmem
  have hafter : after.filter (fun p => p.1 ≤ t) = [] := by
    rw [List.filter_eq_nil_iff]
    intro p hp hle
    have hge : t ≤ p.1 := List.rel_of_pairwise_cons (List.pairwise_append.mp hsorted).2.1 hp
    have heq : p.1 = t := Instant.le_antisymm (of_decide_eq_true hle) hge
    have hlater : [t].Sublist (after.map Prod.fst) :=
      List.singleton_sublist.mpr (heq ▸ List.mem_map_of_mem hp)
    refine honce ?_
    rw [List.map_append]
    exact (hlater.cons_cons t).trans (List.sublist_append_right _ _)
  rw [openAt, List.filter_append, List.filter_cons_of_pos (by simpa using Instant.le_refl t),
    hafter, openAfter_append]
  rfl

/-! ### After the end -/

/-- What a relay declares in the end can be taken to cease then. -/
theorem events_append_finish (finish : Instant) (view : List (Instant × Bool)) :
    events finish (view ++ [(finish, false)]) = events finish view := by
  rw [events, events, changes_append, openAfter_append]
  cases openAfter false view <;> simp [changes]

theorem openAt_append_finish (hle : finish ≤ t) :
    openAt (view ++ [(finish, false)]) t = false := by
  rw [openAt, List.filter_append, openAfter_append, List.filter_cons_of_pos (by simpa using hle)]
  rfl

theorem pairwise_append_finish (hsorted : view.Pairwise fun p q => p.1 ≤ q.1)
    (hview : ∀ p ∈ view, p.1 ≤ finish) :
    (view ++ [(finish, false)]).Pairwise fun p q => p.1 ≤ q.1 := by
  refine List.pairwise_append.mpr ⟨hsorted, List.pairwise_singleton _ _, ?_⟩
  intro p hp q hq
  rw [List.mem_singleton.mp hq]
  exact hview p hp

theorem stop_le_of_mem_shared (hours : ours.Pairwise fun p q => p.1 ≤ q.1)
    (htheirs : theirs.Pairwise fun p q => p.1 ≤ q.1) (hi : i ∈ shared finish ours theirs)
    (hlast : (∀ p ∈ ours, p.1 ≤ finish) ∨ ∀ p ∈ theirs, p.1 ≤ finish) : i.stop ≤ finish := by
  by_contra hlt
  have hstart : i.start < i.stop := (mem_overlaps hi).1
  -- The later one of the two instants lies in the stretch, but not before the end.
  obtain ⟨t, ht, hle, hstop⟩ : ∃ t, finish ≤ t ∧ i.start ≤ t ∧ t < i.stop := by
    rcases Instant.le_total i.start finish with hle | hle
    · exact ⟨finish, Instant.le_refl _, hle, Instant.not_le.mp hlt⟩
    · exact ⟨i.start, hle, Instant.le_refl _, hstart⟩
  rcases hlast with hlast | hlast
  · rw [shared, ← events_append_finish finish ours] at hi
    have hopen := openAt_of_mem_shared (pairwise_append_finish hours hlast) htheirs hi hle hstop
    rw [openAt_append_finish ht] at hopen
    exact absurd hopen.1 Bool.false_ne_true
  · rw [shared, ← events_append_finish finish theirs] at hi
    have hopen := openAt_of_mem_shared hours (pairwise_append_finish htheirs hlast) hi hle hstop
    rw [openAt_append_finish ht] at hopen
    exact absurd hopen.2 Bool.false_ne_true

end Schedule

end RelaySnapshot.Family
