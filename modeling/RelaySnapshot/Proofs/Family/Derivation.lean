import Mathlib.Data.List.Nodup
import RelaySnapshot.Proofs.Family.Sweep

namespace RelaySnapshot.Family

/-! ### What a relay declares -/

/-- None of the declarations has a relay as a member. -/
def Silent (declarations : List Declaration) (other : Fingerprint) : Prop :=
  ∀ d ∈ declarations, d.members.contains other = false

theorem Silent.view {declarations : List Declaration} {other : Fingerprint}
    (h : Silent declarations other) : ∀ p ∈ view declarations other, p.2 = false := by
  intro p hp
  obtain ⟨d, hd, rfl⟩ := List.mem_map.mp hp
  exact h d hd

theorem silent_of_members_eq_nil {declarations : List Declaration}
    (h : ∀ d ∈ declarations, d.members.members = []) (other : Fingerprint) :
    Silent declarations other := by
  intro d hd
  have hnot : other ∉ d.members.members := by simp [h d hd]
  exact decide_eq_false hnot

theorem contains_erase (s : FingerprintSet) (x y : Fingerprint) :
    (s.erase x).contains y = (s.contains y && decide (y ≠ x)) := by
  simp only [FingerprintSet.contains, FingerprintSet.mem_erase, Bool.decide_and]

theorem view_without_of_ne (places : Nat → Bool) {other target : Fingerprint}
    (hne : target ≠ other) (declarations : List Declaration) :
    view (without places other declarations) target = view declarations target := by
  induction declarations generalizing places with
  | nil => rfl
  | cons d rest ih =>
      rw [without, List.mapIdx_cons, view, List.map_cons]
      refine congrArg₂ List.cons ?_ (ih fun place => places (place + 1))
      split <;> simp [contains_erase, hne]

theorem map_start_without (places : Nat → Bool) (other : Fingerprint)
    (declarations : List Declaration) :
    (without places other declarations).map (·.start) = declarations.map (·.start) := by
  induction declarations generalizing places with
  | nil => rfl
  | cons d rest ih =>
      rw [without, List.mapIdx_cons, List.map_cons]
      refine congrArg₂ List.cons ?_ (ih fun place => places (place + 1))
      split <;> rfl

theorem silent_without {places : Nat → Bool} {other : Fingerprint}
    {declarations : List Declaration}
    (h : ∀ place d, declarations[place]? = some d → places place = false →
      d.members.contains other = false) : Silent (without places other declarations) other := by
  intro d hd
  obtain ⟨place, hplace, rfl⟩ := List.mem_mapIdx.mp hd
  split
  · simp [contains_erase]
  · rename_i hnot
    exact h place _ (List.getElem?_eq_getElem hplace) (by simpa using hnot)

theorem Silent.without {declarations : List Declaration} {target : Fingerprint}
    (h : Silent declarations target) (places : Nat → Bool) (other : Fingerprint) :
    Silent (without places other declarations) target := by
  intro d hd
  obtain ⟨place, hplace, rfl⟩ := List.mem_mapIdx.mp hd
  have hsilent := h _ (List.getElem_mem hplace)
  split
  · simp [contains_erase, hsilent]
  · exact hsilent

/-! ### Settling a mention -/

/-- A change of histories that touches nothing but what two relays say of each other. -/
structure Touches (x y : Fingerprint) (g : History → History) : Prop where
  id_eq : ∀ h, (g h).id = h.id
  fingerprint_eq : ∀ h, (g h).fingerprint = h.fingerprint
  starts_eq : ∀ h, (g h).declarations.map (·.start) = h.declarations.map (·.start)
  silent : ∀ h target, Silent h.declarations target → Silent (g h).declarations target
  view_eq : ∀ h target, ¬(h.fingerprint = x ∧ target = y) → ¬(h.fingerprint = y ∧ target = x) →
    view (g h).declarations target = view h.declarations target

theorem Touches.symm {x y : Fingerprint} {g : History → History} (h : Touches x y g) :
    Touches y x g :=
  { h with view_eq := fun a target hne hne' => h.view_eq a target hne' hne }

theorem Touches.comp {x y : Fingerprint} {g g' : History → History} (h : Touches x y g)
    (h' : Touches x y g') : Touches x y (g' ∘ g) where
  id_eq a := (h'.id_eq _).trans (h.id_eq a)
  fingerprint_eq a := (h'.fingerprint_eq _).trans (h.fingerprint_eq a)
  starts_eq a := (h'.starts_eq _).trans (h.starts_eq a)
  silent a target hsilent := h'.silent _ target (h.silent a target hsilent)
  view_eq := by
    intro a target hne hne'
    rw [Function.comp_apply, h'.view_eq _ target (h.fingerprint_eq a ▸ hne)
      (h.fingerprint_eq a ▸ hne'), h.view_eq a target hne hne']

theorem touches_withdraw (relay : Fingerprint) (places : Nat → Bool) (other : Fingerprint) :
    Touches relay other (.withdraw relay places other) where
  id_eq a := by
    rw [History.withdraw]
    split <;> rfl
  fingerprint_eq a := by
    rw [History.withdraw]
    split <;> rfl
  starts_eq a := by
    rw [History.withdraw]
    split
    · exact map_start_without places other a.declarations
    · rfl
  silent a target hsilent := by
    rw [History.withdraw]
    split
    · exact hsilent.without places other
    · exact hsilent
  view_eq a target hne _ := by
    rw [History.withdraw]
    split
    · rename_i heq
      exact view_without_of_ne places (fun htarget => hne ⟨heq, htarget⟩) a.declarations
    · rfl

/-- A relay that mentions another one from a place on no longer does. -/
theorem silent_withdraw {a : History} {place : Nat} {other : Fingerprint}
    (h : Silent (a.declarations.take place) other) :
    Silent (a.withdraw a.fingerprint (place ≤ ·) other).declarations other := by
  rw [History.withdraw, if_pos rfl]
  apply silent_without
  intro i d hd hlt
  have hi : i < place := by simpa using hlt
  exact h d (List.mem_of_getElem? (by rwa [List.getElem?_take_of_lt hi]))

/--
Settling a mention changes nothing but what its two relays say of each other, and the relay that
makes it says nothing of the other one any more.
-/
theorem exists_touches_settle (finish : Instant) (histories : List History) {m : Mention}
    (hfirst : Silent (m.relay.declarations.take m.place) m.member) :
    ∃ g, Touches m.relay.fingerprint m.member g ∧
      (settle finish histories m).2 = histories.map g ∧
      (m.member ≠ m.relay.fingerprint → Silent (g m.relay).declarations m.member) := by
  rw [settle]
  split
  · rename_i hself
    exact ⟨_, touches_withdraw _ _ _, rfl, fun hother => absurd hself hother⟩
  · have htouches := touches_withdraw m.relay.fingerprint (m.place ≤ ·) m.member
    dsimp only
    split
    · exact ⟨_, htouches, rfl, fun _ => silent_withdraw hfirst⟩
    · have htouches' := (touches_withdraw m.member (fun _ => true) m.relay.fingerprint).symm
      exact ⟨_, htouches.comp htouches', List.map_map,
        fun _ => htouches'.silent _ _ (silent_withdraw hfirst)⟩

theorem find?_map_withdraw (histories : List History) (relay : Fingerprint) (places : Nat → Bool)
    (other target : Fingerprint) :
    (histories.map (History.withdraw relay places other)).find? (·.fingerprint = target) =
      (histories.find? (·.fingerprint = target)).map (History.withdraw relay places other) := by
  rw [List.find?_map]
  congr 2
  funext history
  rw [Function.comp_apply, (touches_withdraw relay places other).fingerprint_eq]

/-- A mention of another relay of the snapshot. -/
theorem settle_of_find? {finish : Instant} {histories : List History} {m : Mention} {b : History}
    (hother : m.member ≠ m.relay.fingerprint)
    (hb : histories.find? (·.fingerprint = m.member) = some b) :
    settle finish histories m =
      ((shared finish (view (m.relay.declarations.drop m.place) m.member)
          (view b.declarations m.relay.fingerprint)).map fun time => ⟨m.relay.id, b.id, time⟩,
        (histories.map (.withdraw m.relay.fingerprint (m.place ≤ ·) m.member)).map
          (.withdraw m.member (fun _ => true) m.relay.fingerprint)) := by
  have hmember : b.fingerprint = m.member := by simpa using List.find?_some hb
  have hwithdraw : b.withdraw m.relay.fingerprint (m.place ≤ ·) m.member = b :=
    if_neg (hmember ▸ hother)
  rw [settle, if_neg hother]
  dsimp only
  rw [find?_map_withdraw, hb, Option.map_some, hwithdraw]

/-- Edges come from a mention of another relay of the snapshot. -/
theorem exists_find?_of_mem_settle {finish : Instant} {histories : List History} {m : Mention}
    {e : FamilyEdge} (he : e ∈ (settle finish histories m).1) :
    m.member ≠ m.relay.fingerprint ∧
      ∃ b, histories.find? (·.fingerprint = m.member) = some b := by
  by_cases hself : m.member = m.relay.fingerprint
  · simp [settle, hself] at he
  · refine ⟨hself, ?_⟩
    cases hb : histories.find? (·.fingerprint = m.member) with
    | some b => exact ⟨b, rfl⟩
    | none =>
        rw [settle, if_neg hself] at he
        dsimp only at he
        rw [find?_map_withdraw, hb] at he
        cases he

/-! ### The first mention that is left -/

theorem firstMember_eq_none {declarations : List Declaration}
    (h : firstMember declarations = none) : ∀ d ∈ declarations, d.members.members = [] := by
  induction declarations with
  | nil => simp
  | cons d rest ih =>
      rw [firstMember] at h
      split at h
      · cases h
      · rename_i hnil
        intro e he
        rcases List.mem_cons.mp he with rfl | he
        · exact hnil
        · exact ih (Option.map_eq_none_iff.mp h) e he

theorem members_eq_nil_of_firstMember {declarations : List Declaration} {place : Nat}
    {member : Fingerprint} (h : firstMember declarations = some (place, member)) :
    ∀ d ∈ declarations.take place, d.members.members = [] := by
  induction declarations generalizing place with
  | nil => simp
  | cons d rest ih =>
      rw [firstMember] at h
      split at h
      · cases h
        simp
      · rename_i hnil
        obtain ⟨⟨place, member⟩, hrest, heq⟩ := Option.map_eq_some_iff.mp h
        cases heq
        intro e he
        rcases List.mem_cons.mp he with rfl | he
        · exact hnil
        · exact ih hrest e he

/-- The relays before the one that makes the first mention have none left. -/
theorem eq_append_of_mention? {histories : List History} {m : Mention}
    (h : mention? histories = some m) :
    ∃ before after, histories = before ++ m.relay :: after ∧
      (∀ a ∈ before, ∀ other, Silent a.declarations other) ∧
      ∀ other, Silent (m.relay.declarations.take m.place) other := by
  obtain ⟨before, relay, after, heq, hm, hbefore⟩ := List.findSome?_eq_some_iff.mp h
  obtain ⟨⟨place, member⟩, hfirst, rfl⟩ := Option.map_eq_some_iff.mp hm
  refine ⟨before, after, heq, fun a ha => ?_, ?_⟩
  · exact silent_of_members_eq_nil (firstMember_eq_none (Option.map_eq_none_iff.mp (hbefore a ha)))
  · exact silent_of_members_eq_nil (members_eq_nil_of_firstMember hfirst)

theorem silent_of_mention?_eq_none {histories : List History} (h : mention? histories = none)
    {a : History} (ha : a ∈ histories) (other : Fingerprint) : Silent a.declarations other :=
  silent_of_members_eq_nil
    (firstMember_eq_none (Option.map_eq_none_iff.mp (List.findSome?_eq_none_iff.mp h a ha))) other

/-- What is swept from the first mention on is all that the relay declares. -/
theorem shared_drop {finish : Instant} {declarations : List Declaration} {place : Nat}
    {other : Fingerprint} (h : Silent (declarations.take place) other)
    (theirs : List (Instant × Bool)) :
    shared finish (view (declarations.drop place) other) theirs =
      shared finish (view declarations other) theirs := by
  have hview : view declarations other =
      view (declarations.take place) other ++ view (declarations.drop place) other := by
    rw [view, view, view, ← List.map_append, List.take_append_drop]
  rw [shared, shared, hview, events_append_of_silent h.view]

/-! ### The edges of a pair -/

/-- Histories in the order of their ids, with their declarations in the order of time. -/
structure Ordered (histories : List History) : Prop where
  ids : histories.Pairwise fun a b => a.id < b.id
  fingerprints : (histories.map (·.fingerprint)).Nodup
  starts : ∀ a ∈ histories, (a.declarations.map (·.start)).Pairwise (· ≤ ·)

section Ordered

variable {finish : Instant} {histories : List History}

theorem Ordered.view {a : History} (h : Ordered histories) (ha : a ∈ histories)
    (other : Fingerprint) :
    (view a.declarations other).Pairwise fun p q => p.1 ≤ q.1 := by
  have hstarts := h.starts a ha
  rw [List.pairwise_map] at hstarts
  exact List.pairwise_map.mpr hstarts

theorem Ordered.map {x y : Fingerprint} {g : History → History} (h : Ordered histories)
    (hg : Touches x y g) : Ordered (histories.map g) where
  ids := by
    rw [List.pairwise_map]
    exact h.ids.imp fun {a b} hlt => by rwa [hg.id_eq, hg.id_eq]
  fingerprints := by
    rw [List.map_map]
    simpa [Function.comp_def, hg.fingerprint_eq] using h.fingerprints
  starts := by
    intro a ha
    obtain ⟨b, hb, rfl⟩ := List.mem_map.mp ha
    exact hg.starts_eq b ▸ h.starts b hb

theorem Ordered.eq_of_fingerprint (h : Ordered histories) {a b : History} (ha : a ∈ histories)
    (hb : b ∈ histories) (heq : a.fingerprint = b.fingerprint) : a = b :=
  List.inj_on_of_nodup_map h.fingerprints ha hb heq

theorem Ordered.eq_of_id (h : Ordered histories) {a b : History} (ha : a ∈ histories)
    (hb : b ∈ histories) (heq : a.id = b.id) : a = b := by
  have hnodup : (histories.map (·.id)).Nodup :=
    List.pairwise_map.mpr (h.ids.imp fun hlt => ne_of_lt hlt)
  exact List.inj_on_of_nodup_map hnodup ha hb heq

/-- A relay that stands before the one that makes the first mention declares nothing. -/
theorem Ordered.silent_of_lt (h : Ordered histories) {m : Mention}
    (hm : mention? histories = some m) {a : History} (ha : a ∈ histories)
    (hlt : a.id < m.relay.id) (other : Fingerprint) : Silent a.declarations other := by
  obtain ⟨before, after, heq, hbefore, -⟩ := eq_append_of_mention? hm
  have hids := h.ids
  rw [heq] at ha hids
  rcases List.mem_append.mp ha with ha | ha
  · exact hbefore a ha other
  · have hle : m.relay.id ≤ a.id := by
      rcases List.mem_cons.mp ha with rfl | ha
      · exact le_refl _
      · exact (List.rel_of_pairwise_cons (List.pairwise_append.mp hids).2.1 ha).le
    exact absurd hlt (not_lt.mpr hle)

theorem Ordered.find?_eq (h : Ordered histories) {b : History} (hb : b ∈ histories) :
    histories.find? (·.fingerprint = b.fingerprint) = some b := by
  cases hfind : histories.find? (·.fingerprint = b.fingerprint) with
  | none => simpa using List.find?_eq_none.mp hfind b hb
  | some c =>
      have heq : c.fingerprint = b.fingerprint := by simpa using List.find?_some hfind
      rw [h.eq_of_fingerprint (List.mem_of_find?_eq_some hfind) hb heq]

theorem Ordered.fingerprint_ne (h : Ordered histories) {a b : History} (ha : a ∈ histories)
    (hb : b ∈ histories) (hlt : a.id < b.id) : b.fingerprint ≠ a.fingerprint := by
  intro heq
  cases h.eq_of_fingerprint hb ha heq
  exact lt_irrefl _ hlt

/-- The edges of a mention are those of its two relays. -/
theorem Ordered.eq_of_mem_settle (h : Ordered histories) {m : Mention}
    (hm : mention? histories = some m) {a b : History} (ha : a ∈ histories) (hb : b ∈ histories)
    {e : FamilyEdge} (he : e ∈ (settle finish histories m).1) (hfirst : e.first = a.id)
    (hsecond : e.second = b.id) : m.relay = a ∧ m.member = b.fingerprint := by
  obtain ⟨hother, c, hc⟩ := exists_find?_of_mem_settle he
  rw [settle_of_find? hother hc] at he
  obtain ⟨time, -, rfl⟩ := List.mem_map.mp he
  have hmember : c.fingerprint = m.member := by simpa using List.find?_some hc
  cases h.eq_of_id (List.mem_of_find?_eq_some hc) hb hsecond
  exact ⟨h.eq_of_id (mention?_eq_some hm).1 ha hfirst, hmember.symm⟩

/-- Of the edges that are derived those of a pair are what the two declare together. -/
theorem filter_derive (h : Ordered histories) {a b : History} (ha : a ∈ histories)
    (hb : b ∈ histories) (hlt : a.id < b.id) :
    (derive finish histories).filter (fun e => e.first = a.id ∧ e.second = b.id) =
      (shared finish (view a.declarations b.fingerprint)
        (view b.declarations a.fingerprint)).map fun time => ⟨a.id, b.id, time⟩ := by
  fun_induction derive finish histories generalizing a b with
  | case1 histories hm =>
      rw [shared_eq_nil_of_left (silent_of_mention?_eq_none hm ha _).view (h.view hb _)]
      rfl
  | case2 histories m hm ih =>
      obtain ⟨-, -, -, -, hfirst⟩ := eq_append_of_mention? hm
      obtain ⟨hrelay, -⟩ := mention?_eq_some hm
      obtain ⟨g, hg, hsettle, hsilent⟩ :=
        exists_touches_settle finish histories (hfirst m.member)
      have hordered := h.map hg
      rw [hsettle] at ih
      have ih := ih hordered (List.mem_map_of_mem ha) (List.mem_map_of_mem hb)
        (by rwa [hg.id_eq, hg.id_eq])
      rw [hg.id_eq, hg.id_eq, hg.fingerprint_eq, hg.fingerprint_eq] at ih
      rw [List.filter_append, hsettle, ih]
      by_cases hpair : m.relay = a ∧ m.member = b.fingerprint
      · -- The pair is settled now, and nothing of it is left.
        obtain ⟨rfl, hmember⟩ := hpair
        have hother : m.member ≠ m.relay.fingerprint :=
          hmember ▸ h.fingerprint_ne ha hb hlt
        have hleft : Silent (g m.relay).declarations b.fingerprint := hmember ▸ hsilent hother
        rw [shared_eq_nil_of_left hleft.view (hordered.view (List.mem_map_of_mem hb) _),
          settle_of_find? hother (hmember ▸ h.find?_eq hb), hmember,
          shared_drop (hfirst b.fingerprint), List.map_nil, List.append_nil, List.filter_eq_self]
        intro e he
        obtain ⟨time, -, rfl⟩ := List.mem_map.mp he
        simp
      · have hnone : (settle finish histories m).1.filter
            (fun e => e.first = a.id ∧ e.second = b.id) = [] := by
          rw [List.filter_eq_nil_iff]
          intro e he hids
          obtain ⟨hfirst, hsecond⟩ := of_decide_eq_true hids
          exact hpair (h.eq_of_mem_settle hm ha hb he hfirst hsecond)
        rw [hnone, List.nil_append]
        by_cases hpair' : m.relay = b ∧ m.member = a.fingerprint
        · -- The later relay of the pair mentions the earlier one, which declares nothing.
          obtain ⟨rfl, -⟩ := hpair'
          have hnothing := h.silent_of_lt hm ha hlt m.relay.fingerprint
          rw [shared_eq_nil_of_left hnothing.view (h.view hb _),
            shared_eq_nil_of_left (hg.silent a _ hnothing).view
              (hordered.view (List.mem_map_of_mem hb) _)]
        · -- Another pair is settled.
          have hne : ¬(a.fingerprint = m.relay.fingerprint ∧ b.fingerprint = m.member) :=
            fun heq => hpair ⟨(h.eq_of_fingerprint ha hrelay heq.1).symm, heq.2.symm⟩
          have hne' : ¬(b.fingerprint = m.relay.fingerprint ∧ a.fingerprint = m.member) :=
            fun heq => hpair' ⟨(h.eq_of_fingerprint hb hrelay heq.1).symm, heq.2.symm⟩
          rw [hg.view_eq a _ hne fun heq => hne' heq.symm,
            hg.view_eq b _ hne' fun heq => hne heq.symm]

/-- At an instant a pair has one edge if both relays declare each other, and none otherwise. -/
theorem countP_derive (h : Ordered histories) {a b : History} (ha : a ∈ histories)
    (hb : b ∈ histories) (hlt : a.id < b.id) {t : Instant} (ht : t < finish) :
    (derive finish histories).countP
        (fun e => e.first = a.id ∧ e.second = b.id ∧ e.time.contains t) =
      if openAt (view a.declarations b.fingerprint) t &&
        openAt (view b.declarations a.fingerprint) t then 1 else 0 := by
  calc
    _ = ((derive finish histories).filter fun e => e.first = a.id ∧ e.second = b.id).countP
          (·.time.contains t) := by
      rw [List.countP_filter]
      congr 1
      funext e
      grind
    _ = (shared finish (view a.declarations b.fingerprint)
          (view b.declarations a.fingerprint)).countP (·.contains t) := by
      rw [filter_derive h ha hb hlt, List.countP_map]
      rfl
    _ = _ := countP_shared ht (h.view ha _) (h.view hb _)

/-- Every edge that is derived goes from one relay to a later one and has an extent. -/
theorem mem_derive (h : Ordered histories) {e : FamilyEdge} (he : e ∈ derive finish histories) :
    e.time.start < e.time.stop ∧ e.first < e.second ∧ e.first ∈ histories.map (·.id) ∧
      e.second ∈ histories.map (·.id) := by
  fun_induction derive finish histories with
  | case1 histories hm => simp at he
  | case2 histories m hm ih =>
      obtain ⟨-, -, -, -, hfirst⟩ := eq_append_of_mention? hm
      obtain ⟨hrelay, -⟩ := mention?_eq_some hm
      rcases List.mem_append.mp he with he | he
      · obtain ⟨hother, b, hfind⟩ := exists_find?_of_mem_settle he
        have hb := List.mem_of_find?_eq_some hfind
        have hmember : b.fingerprint = m.member := by simpa using List.find?_some hfind
        rw [settle_of_find? hother hfind, shared_drop (hfirst m.member)] at he
        obtain ⟨time, htime, rfl⟩ := List.mem_map.mp he
        have hlt : m.relay.id < b.id := by
          rcases lt_trichotomy m.relay.id b.id with hlt | heq | hgt
          · exact hlt
          · exact absurd (h.eq_of_id hrelay hb heq ▸ hmember.symm) hother
          · have hnothing := h.silent_of_lt hm hb hgt m.relay.fingerprint
            rw [shared_eq_nil_of_right hnothing.view (h.view hrelay _)] at htime
            cases htime
        exact ⟨(mem_overlaps htime).1, hlt, List.mem_map_of_mem hrelay, List.mem_map_of_mem hb⟩
      · obtain ⟨g, hg, hsettle, -⟩ := exists_touches_settle finish histories (hfirst m.member)
        have hids : (histories.map g).map (·.id) = histories.map (·.id) := by
          simp [Function.comp_def, hg.id_eq]
        rw [hsettle] at ih he
        rw [← hids]
        exact ih (h.map hg) he

end Ordered

end RelaySnapshot.Family
