import RelaySnapshot.Reconciliation

/-!
# Families

Two relays are family while the current descriptor of each one declares the other. The declarations
of all relays are used up mention by mention: the first relay that still mentions another one is
compared with it, and then neither of the two mentions the other any more. So each pair of relays is
compared once.
-/

namespace RelaySnapshot.Family

structure Declaration where
  start : Instant
  members : FingerprintSet

structure History where
  fingerprint : Fingerprint
  id : NodeId
  declarations : List Declaration

/-- The declarations of a timeline, each from the time on at which its descriptor is current. -/
def History.ofTimeline (month : Month) (timeline : Timeline) : Except CalendarError History := do
  let intervals ← timeline.validity month
  return {
    fingerprint := timeline.fingerprint
    id := timeline.id
    declarations := List.zipWith (fun d i => ⟨i.start, d.family⟩) timeline.descriptors intervals }

/-! ### The time in which two relays declare each other -/

structure Event where
  time : Instant
  opens : Bool

/-- The changes between declaring and not declaring, given whether a declaration is open. -/
def changes : (isOpen : Bool) → List (Instant × Bool) → List Event
  | _, [] => []
  | isOpen, (time, declares) :: rest =>
    if declares = isOpen then changes isOpen rest
    else ⟨time, declares⟩ :: changes declares rest

/-- Whether a declaration is open in the end, given whether one is in the beginning. -/
def openAfter (isOpen : Bool) (view : List (Instant × Bool)) : Bool :=
  (view.getLast?.map (·.2)).getD isOpen

/-- All changes; a declaration that is open in the end ceases at `finish`. -/
def events (finish : Instant) (view : List (Instant × Bool)) : List Event :=
  changes false view ++ if openAfter false view then [⟨finish, false⟩] else []

def view (declarations : List Declaration) (other : Fingerprint) : List (Instant × Bool) :=
  declarations.map fun d => (d.start, d.members.contains other)

/-- The time from one instant on to another, if there is a beginning and an extent. -/
def stretch : (since : Option Instant) → (stop : Instant) → List Interval
  | some start, stop => if start < stop then [⟨start, stop⟩] else []
  | none, _ => []

/--
The stretches in which two declarations are open, given how many are and since when there are two.
-/
def overlaps : (count : Nat) → (since : Option Instant) → List Event → List Interval
  | _, _, [] => []
  | count, since, ⟨time, true⟩ :: rest =>
    overlaps (count + 1) (if count + 1 = 2 then some time else since) rest
  | count, since, ⟨time, false⟩ :: rest =>
    if count = 2 then stretch since time ++ overlaps 1 none rest
    else overlaps (count - 1) since rest

def shared (finish : Instant) (ours theirs : List (Instant × Bool)) : List Interval :=
  overlaps 0 none (Instant.sortBy Event.time (events finish ours ++ events finish theirs))

/-! ### The declarations that are left -/

structure Mention where
  relay : History
  place : Nat
  member : Fingerprint

def firstMember : List Declaration → Option (Nat × Fingerprint)
  | [] => none
  | d :: rest =>
    match d.members.members with
    | member :: _ => some (0, member)
    | [] => (firstMember rest).map fun (place, member) => (place + 1, member)

def mention? (histories : List History) : Option Mention :=
  histories.findSome? fun relay =>
    (firstMember relay.declarations).map fun (place, member) => ⟨relay, place, member⟩

/-- The declarations with `other` taken out of those at some places. -/
def without (places : Nat → Bool) (other : Fingerprint) (declarations : List Declaration) :
    List Declaration :=
  declarations.mapIdx fun place d =>
    if places place then { d with members := d.members.erase other } else d

/-- The history without some mentions of `other`, if it is that of `relay`. -/
def History.withdraw (relay : Fingerprint) (places : Nat → Bool) (other : Fingerprint)
    (history : History) : History :=
  if history.fingerprint = relay then
    { history with declarations := without places other history.declarations }
  else history

/--
The edges between the two relays of a mention and what is left without their mentions of each other.
A mention of the relay itself or of one outside the snapshot leads to no edge.
-/
def settle (finish : Instant) (histories : List History) (m : Mention) :
    List FamilyEdge × List History :=
  let a := m.relay
  if m.member = a.fingerprint then
    ([], histories.map (.withdraw a.fingerprint (· = m.place) m.member))
  else
    let left := histories.map (.withdraw a.fingerprint (m.place ≤ ·) m.member)
    match left.find? (·.fingerprint = m.member) with
    | none => ([], left)
    | some b =>
      let times := shared finish (view (a.declarations.drop m.place) m.member)
        (view b.declarations a.fingerprint)
      (times.map fun time => ⟨a.id, b.id, time⟩,
        left.map (.withdraw m.member (fun _ => true) a.fingerprint))

/-! ### Every mention is settled -/

def membersIn : List Declaration → Nat
  | [] => 0
  | d :: rest => d.members.members.length + membersIn rest

def mentionsIn : List History → Nat
  | [] => 0
  | history :: rest => membersIn history.declarations + mentionsIn rest

theorem length_erase_le (s : FingerprintSet) (x : Fingerprint) :
    (s.erase x).members.length ≤ s.members.length :=
  List.length_filter_le _ _

theorem length_erase_lt {s : FingerprintSet} {x : Fingerprint} (h : x ∈ s) :
    (s.erase x).members.length < s.members.length :=
  List.length_filter_lt_length_iff_exists.mpr ⟨x, h, by simp⟩

theorem membersIn_without_le (places : Nat → Bool) (other : Fingerprint)
    (declarations : List Declaration) :
    membersIn (without places other declarations) ≤ membersIn declarations := by
  induction declarations generalizing places with
  | nil => exact Nat.le_refl _
  | cons d rest ih =>
    rw [without, List.mapIdx_cons]
    refine Nat.add_le_add ?_ (ih fun place => places (place + 1))
    split
    · exact length_erase_le d.members other
    · exact Nat.le_refl _

theorem membersIn_without_lt (places : Nat → Bool) {place : Nat} {other : Fingerprint}
    {declarations : List Declaration} {d : Declaration} (hplace : places place)
    (hd : declarations[place]? = some d) (hmem : other ∈ d.members) :
    membersIn (without places other declarations) < membersIn declarations := by
  induction declarations generalizing places place with
  | nil => simp at hd
  | cons e rest ih =>
    rw [without, List.mapIdx_cons]
    cases place with
    | zero =>
      cases Option.some.inj hd
      rw [if_pos hplace]
      exact Nat.add_lt_add_of_lt_of_le (length_erase_lt hmem)
        (membersIn_without_le (fun place => places (place + 1)) other rest)
    | succ place =>
      refine Nat.add_lt_add_of_le_of_lt ?_ (ih (fun place => places (place + 1)) hplace hd)
      split
      · exact length_erase_le e.members other
      · exact Nat.le_refl _

theorem membersIn_withdraw_le (history : History) (relay : Fingerprint) (places : Nat → Bool)
    (other : Fingerprint) :
    membersIn (history.withdraw relay places other).declarations ≤
      membersIn history.declarations := by
  rw [History.withdraw]
  split
  · exact membersIn_without_le places other history.declarations
  · exact Nat.le_refl _

theorem mentionsIn_withdraw_le (histories : List History) (relay : Fingerprint)
    (places : Nat → Bool) (other : Fingerprint) :
    mentionsIn (histories.map (.withdraw relay places other)) ≤ mentionsIn histories := by
  induction histories with
  | nil => exact Nat.le_refl _
  | cons history rest ih =>
    exact Nat.add_le_add (membersIn_withdraw_le history relay places other) ih

theorem mentionsIn_withdraw_lt {histories : List History} {m : Mention} {d : Declaration}
    (hrelay : m.relay ∈ histories) (places : Nat → Bool) (hplace : places m.place)
    (hd : m.relay.declarations[m.place]? = some d) (hmem : m.member ∈ d.members) :
    mentionsIn (histories.map (.withdraw m.relay.fingerprint places m.member)) <
      mentionsIn histories := by
  induction histories with
  | nil => simp at hrelay
  | cons history rest ih =>
    rcases List.mem_cons.mp hrelay with rfl | hrelay
    · refine Nat.add_lt_add_of_lt_of_le ?_ (mentionsIn_withdraw_le rest _ places m.member)
      rw [History.withdraw, if_pos rfl]
      exact membersIn_without_lt places hplace hd hmem
    · exact Nat.add_lt_add_of_le_of_lt
        (membersIn_withdraw_le history m.relay.fingerprint places m.member) (ih hrelay)

theorem firstMember_eq_some {declarations : List Declaration} {place : Nat}
    {member : Fingerprint} (h : firstMember declarations = some (place, member)) :
    ∃ d, declarations[place]? = some d ∧ member ∈ d.members := by
  induction declarations generalizing place with
  | nil => simp [firstMember] at h
  | cons d rest ih =>
    rw [firstMember] at h
    split at h
    · rename_i heq
      cases h
      have hmem : member ∈ d.members.members := heq ▸ List.mem_cons_self
      exact ⟨d, rfl, hmem⟩
    · obtain ⟨⟨place, member⟩, hrest, heq⟩ := Option.map_eq_some_iff.mp h
      cases heq
      exact ih hrest

theorem mention?_eq_some {histories : List History} {m : Mention}
    (h : mention? histories = some m) :
    m.relay ∈ histories ∧ firstMember m.relay.declarations = some (m.place, m.member) := by
  obtain ⟨relay, hrelay, hm⟩ := List.exists_of_findSome?_eq_some h
  obtain ⟨⟨place, member⟩, hfirst, heq⟩ := Option.map_eq_some_iff.mp hm
  cases heq
  exact ⟨hrelay, hfirst⟩

theorem mentionsIn_settle_lt {histories : List History} {m : Mention}
    (h : mention? histories = some m) (finish : Instant) :
    mentionsIn (settle finish histories m).2 < mentionsIn histories := by
  obtain ⟨hrelay, hfirst⟩ := mention?_eq_some h
  obtain ⟨d, hd, hmem⟩ := firstMember_eq_some hfirst
  rw [settle]
  split
  · exact mentionsIn_withdraw_lt hrelay _ (by simp) hd hmem
  · have hlt := mentionsIn_withdraw_lt hrelay (m.place ≤ ·) (by simp) hd hmem
    dsimp only
    split
    · exact hlt
    · exact Nat.lt_of_le_of_lt (mentionsIn_withdraw_le _ _ _ _) hlt

def derive (finish : Instant) (histories : List History) : List FamilyEdge :=
  match _h : mention? histories with
  | none => []
  | some m => (settle finish histories m).1 ++ derive finish (settle finish histories m).2
termination_by mentionsIn histories
decreasing_by exact mentionsIn_settle_lt ‹_› finish

def edges (month : Month) (histories : List History) : Except CalendarError (List FamilyEdge) :=
  return derive (← month.lastInstant) histories

end RelaySnapshot.Family
