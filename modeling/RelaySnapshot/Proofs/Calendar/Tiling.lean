import Mathlib.Data.Prod.Lex
import RelaySnapshot.Calendar.Moment
import RelaySnapshot.Proofs.Calendar.Timestamp

/-!
# Months tile time

A day lies before a month exactly if its number is below that of the first day of the month. So a
month holds the days from its first day up to the first day of the next month, and the same is true
of the instants of these days, leap seconds included.
-/

namespace RelaySnapshot

namespace Date

/-- The day after, unless the calendar ends with this one. -/
def succ? (date : Date) : Option Date :=
  if date.day < daysInMonth date.year date.month then of? date.year date.month (date.day + 1)
  else if date.month < 12 then of? date.year (date.month + 1) 1
  else of? (date.year + 1) 1 1

theorem succ?_of_pred? {date day : Date} (h : date.pred? = some day) : day.succ? = some date := by
  have hmonth := date.month_mem
  have hday := date.day_mem
  have hself := of?_self date
  rw [pred?] at h
  split at h
  · obtain ⟨hy, hm, hd⟩ := of?_eq_some h
    rw [succ?, hy, hm, hd, if_pos (by omega), Nat.sub_add_cancel hday.1]
    exact hself
  · have hfirst : date.day = 1 := by omega
    rw [hfirst] at hself
    split at h
    · obtain ⟨hy, hm, hd⟩ := of?_eq_some h
      rw [succ?, hy, hm, hd, if_neg (lt_irrefl _), if_pos (by omega), Nat.sub_add_cancel hmonth.1]
      exact hself
    · obtain ⟨hy, hm, hd⟩ := of?_eq_some h
      have hjanuary : date.month = 1 := by omega
      rw [hjanuary] at hself
      rw [succ?, hy, hm, hd, daysInMonth_twelve, if_neg (lt_irrefl _), if_neg (lt_irrefl _),
        Int.sub_add_cancel]
      exact hself

end Date

namespace Instant

/-- The seconds since 1970 began; a leap second is counted with the second before it. -/
def seconds (t : Instant) : Int :=
  86400 * t.date.number + t.second

/-- The instant one second later, unless the calendar ends; leap seconds are passed over. -/
def secondAfter? (t : Instant) : Option Instant :=
  if h : t.second + 1 < 86400 then some ⟨t.date, t.second + 1, false, h, by simp⟩
  else t.date.succ?.map midnight

end Instant

namespace Month

variable {m m' : Month} {d : Date}

/-! ### Years and numbers -/

/-- The calendar has the first day of the month. -/
def HasFirstDay (m : Month) : Prop :=
  (Date.of? m.year m.number 1).isSome = true

instance : Decidable m.HasFirstDay :=
  inferInstanceAs (Decidable (_ = true))

theorem number_mem (m : Month) : 1 ≤ m.number ∧ m.number ≤ 12 := by
  rw [number]
  omega

theorem index_eq (m : Month) : m.index = 12 * m.year + (m.number - 1) := by
  rw [year, number]
  omega

theorem index_ofDate (d : Date) : (ofDate d).index = 12 * d.year + ((d.month : Int) - 1) := rfl

theorem index_next (m : Month) : m.next.index = m.index + 1 := rfl

theorem lt_iff : m < m' ↔ m.index < m'.index :=
  Iff.rfl

theorem ext_index (h : m.index = m'.index) : m = m' := by
  cases m
  cases m'
  simpa using h

/-- Months are ordered by their years, and in a year by their numbers. -/
theorem lt_iff_toLex (m m' : Month) :
    m < m' ↔ toLex (m.year, m.number) < toLex (m'.year, m'.number) := by
  have hm := m.number_mem
  have hm' := m'.number_mem
  rw [lt_iff, m.index_eq, m'.index_eq, Prod.Lex.toLex_lt_toLex]
  omega

theorem year_next (m : Month) : m.next.year = if m.number = 12 then m.year + 1 else m.year := by
  by_cases hlast : m.number = 12
  · rw [if_pos hlast]
    rw [number] at hlast
    rw [year, year, index_next]
    omega
  · rw [if_neg hlast]
    rw [number] at hlast
    rw [year, year, index_next]
    omega

theorem number_next (m : Month) : m.next.number = if m.number = 12 then 1 else m.number + 1 := by
  by_cases hlast : m.number = 12
  · rw [if_pos hlast]
    rw [number] at hlast
    rw [number, index_next]
    omega
  · rw [if_neg hlast]
    rw [number] at hlast
    rw [number, number, index_next]
    omega

/-! ### First days -/

theorem firstDay_eq (h : m.HasFirstDay) :
    m.firstDay.year = m.year ∧ m.firstDay.month = m.number ∧ m.firstDay.day = 1 := by
  obtain ⟨date, hdate⟩ := Option.isSome_iff_exists.mp h
  rw [firstDay, hdate]
  exact Date.of?_eq_some hdate

theorem ofDate_firstDay (h : m.HasFirstDay) : ofDate m.firstDay = m := by
  obtain ⟨hyear, hmonth, -⟩ := firstDay_eq h
  apply ext_index
  rw [index_ofDate, hyear, hmonth, m.index_eq]

/-- The days before the first of a month are those of earlier months. -/
theorem number_lt_firstDay_iff (h : m.HasFirstDay) :
    d.number < m.firstDay.number ↔ ofDate d < m := by
  obtain ⟨hyear, hmonth, hday⟩ := firstDay_eq h
  have hnumber := m.number_mem
  have hd := d.month_mem
  rw [lt_iff, index_ofDate, m.index_eq]
  constructor
  · intro hlt
    by_contra hnot
    -- The day lies in a later year, in a later month of the year, or in the month itself.
    have hle : m.firstDay.number ≤ d.number := by
      rcases Int.lt_trichotomy m.year d.year with hgt | heq | hgt
      · exact (Date.number_lt_of_year_lt (hyear ▸ hgt)).le
      · rcases Nat.lt_trichotomy m.number d.month with hgt | hsame | hgt
        · exact (Date.number_lt_of_month_lt (hyear.trans heq) (hmonth ▸ hgt)).le
        · have hpos := d.day_mem.1
          rw [Date.number, Date.number, hyear, hmonth, hday, heq, hsame]
          omega
        · omega
      · omega
    omega
  · intro hlt
    rcases Int.lt_trichotomy d.year m.year with hless | heq | hless
    · exact Date.number_lt_of_year_lt (hyear.symm ▸ hless)
    · refine Date.number_lt_of_month_lt (heq.trans hyear.symm) ?_
      rw [hmonth]
      omega
    · omega

/-- The first day of the next month comes as many days later as the month has. -/
theorem number_firstDay_next (h : m.HasFirstDay) (hnext : m.next.HasFirstDay) :
    m.next.firstDay.number = m.firstDay.number + daysInMonth m.year m.number := by
  obtain ⟨hyear, hmonth, hday⟩ := firstDay_eq h
  obtain ⟨hyear', hmonth', hday'⟩ := firstDay_eq hnext
  have hnumber := m.number_mem
  rw [Date.number, Date.number, hyear, hmonth, hday, hyear', hmonth', hday', year_next,
    number_next]
  split
  next hlast =>
    have hyears := Date.daysBeforeYear_succ m.year
    rw [hlast, hyears, Date.daysBeforeMonth_one]
    omega
  next hlast =>
    have hmonths := Date.daysBeforeMonth_succ m.year ⟨hnumber.1, by omega⟩
    rw [hmonths]
    omega

/-- A month consists of the days from its first day to the one before the next month. -/
theorem ofDate_eq_iff (h : m.HasFirstDay) (hnext : m.next.HasFirstDay) :
    ofDate d = m ↔ m.firstDay.number ≤ d.number ∧ d.number < m.next.firstDay.number := by
  rw [number_lt_firstDay_iff hnext, ← Int.not_lt, number_lt_firstDay_iff h, lt_iff, lt_iff,
    index_next]
  constructor
  · rintro rfl
    simp
  · rintro ⟨hnot, hlt⟩
    exact ext_index (by omega)

theorem days_eq (h : m.HasFirstDay) (hnext : m.next.HasFirstDay) :
    m.days = daysInMonth m.year m.number := by
  have hle := daysInMonth_le m.year m.number
  rw [days, number_firstDay_next h hnext, Nat.pow_eq]
  omega

/-! ### Instants -/

theorem rank_firstInstant (m : Month) : m.firstInstant.rank = 2 * (86400 * m.firstDay.number) := by
  simp [firstInstant, Instant.midnight, Instant.rank]

theorem rank_moment_firstInstant (m : Month) :
    m.firstInstant.moment.rank = 2000000000 * (86400 * m.firstDay.number) := by
  simp [firstInstant, Instant.midnight, Instant.moment, Moment.rank]

theorem firstInstant_lt_iff (m m' : Month) :
    m.firstInstant < m'.firstInstant ↔ m.firstDay.number < m'.firstDay.number := by
  rw [Instant.lt_iff, rank_firstInstant, rank_firstInstant]
  omega

theorem contains_iff (h : m.HasFirstDay) (hnext : m.next.HasFirstDay) (t : Instant) :
    m.contains t = true ↔ m.firstInstant ≤ t ∧ t < m.next.firstInstant := by
  have hsecond := t.second_lt
  have hrank : t.rank = 2 * (86400 * t.date.number + t.second) + if t.leap then 1 else 0 := rfl
  have hle : m.firstInstant ≤ t ↔ m.firstInstant.rank ≤ t.rank := Iff.rfl
  rw [contains, beq_iff_eq, of, ofDate_eq_iff h hnext, hle, Instant.lt_iff, rank_firstInstant,
    rank_firstInstant, hrank]
  split <;> omega

theorem holds_iff (h : m.HasFirstDay) (hnext : m.next.HasFirstDay) (x : Moment) :
    m.holds x = true ↔ m.firstInstant.moment ≤ x ∧ x < m.next.firstInstant.moment := by
  have hsecond := x.second_lt
  have hnanosecond := x.nanosecond_lt
  have hrank : x.rank = 2000000000 * (86400 * x.date.number + x.second) + x.nanosecond := rfl
  change _ ↔ m.firstInstant.moment.rank ≤ x.rank ∧ x.rank < m.next.firstInstant.moment.rank
  rw [holds, beq_iff_eq, ofDate_eq_iff h hnext, rank_moment_firstInstant,
    rank_moment_firstInstant, hrank]
  omega

/-- A month ends one second before the next one begins. -/
theorem exists_lastInstant_secondAfter? (h : m.HasFirstDay) (hnext : m.next.HasFirstDay) :
    ∃ last, m.lastInstant = .ok last ∧ last.secondAfter? = some m.next.firstInstant := by
  obtain ⟨hyear, hmonth, hday⟩ := firstDay_eq hnext
  have hlow : Date.firstYear ≤ m.year := by
    have hrange := m.firstDay.year_mem.1
    rwa [(firstDay_eq h).1] at hrange
  have hnumber := m.number_mem
  obtain ⟨day, hpred⟩ := Date.exists_pred? hday <| by
    rw [hyear, hmonth, year_next, number_next]
    split <;> omega
  refine ⟨⟨day, 86399, false, by decide, by simp⟩, ?_, ?_⟩
  · rw [lastInstant, Instant.beforeDay, hpred]
    rfl
  · rw [Instant.secondAfter?, dif_neg (lt_irrefl 86400), Date.succ?_of_pred? hpred]
    rfl

theorem lt_iff_firstInstant (h : m.HasFirstDay) (h' : m'.HasFirstDay) :
    m < m' ↔ m.firstInstant < m'.firstInstant := by
  rw [firstInstant_lt_iff, number_lt_firstDay_iff h', ofDate_firstDay h]

/-! ### The main statement -/

/-- A month in the row of months that divide time among them. -/
structure Tiles (m : Month) : Prop where
  contains_iff : ∀ t : Instant,
    m.contains t = true ↔ m.firstInstant ≤ t ∧ t < m.next.firstInstant
  /-- The same between two seconds and in leap seconds after any second. -/
  holds_iff : ∀ x : Moment,
    m.holds x = true ↔ m.firstInstant.moment ≤ x ∧ x < m.next.firstInstant.moment
  lastInstant : ∃ last, m.lastInstant = .ok last ∧ last.secondAfter? = some m.next.firstInstant
  length : m.next.firstInstant.seconds - m.firstInstant.seconds = m.days * 86400
  previous_next : m.next.previous = m
  next_previous : m.previous.next = m
  /-- Months are ordered by their years, and in a year by their numbers. -/
  order : ∀ m', m < m' ↔ toLex (m.year, m.number) < toLex (m'.year, m'.number)
  lt_iff : ∀ m', m'.HasFirstDay → (m < m' ↔ m.firstInstant < m'.firstInstant)
  gt_iff : ∀ m', m'.HasFirstDay → (m' < m ↔ m'.firstInstant < m.firstInstant)
  /-- No month lies between this one and the next. -/
  lt_iff_next : ∀ m', m < m' ↔ m' = m.next ∨ m.next < m'

/-- Months of which the calendar has the beginning and the end tile time. -/
theorem tiles (h : m.HasFirstDay) (hnext : m.next.HasFirstDay) : m.Tiles where
  contains_iff := contains_iff h hnext
  holds_iff := holds_iff h hnext
  lastInstant := exists_lastInstant_secondAfter? h hnext
  length := by
    have hdays := number_firstDay_next h hnext
    rw [days_eq h hnext]
    simp only [Instant.seconds, firstInstant, Instant.midnight]
    omega
  previous_next := by simp [next, previous]
  next_previous := by simp [next, previous]
  order := lt_iff_toLex m
  lt_iff _ h' := lt_iff_firstInstant h h'
  gt_iff _ h' := lt_iff_firstInstant h' h
  lt_iff_next m' := by
    rw [Month.lt_iff, Month.lt_iff, index_next]
    constructor
    · intro hlt
      rcases Int.lt_or_eq_of_le (Int.add_one_le_of_lt hlt) with hafter | heq
      · exact .inr hafter
      · exact .inl (ext_index heq.symm)
    · rintro (rfl | hafter)
      · rw [index_next]
        omega
      · omega

/-- February of the year -100, which has no leap day although it is a fourth year. -/
theorem tiles_february :
    let m : Month := ⟨12 * (-100) + 1⟩
    m.HasFirstDay ∧ m.next.HasFirstDay ∧ m.days = 28 ∧ m.Tiles :=
  ⟨by decide, by decide, by decide, tiles (by decide) (by decide)⟩

end Month

end RelaySnapshot
