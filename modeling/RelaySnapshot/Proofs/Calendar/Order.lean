import Mathlib.Tactic.IntervalCases
import RelaySnapshot.Calendar.Month

namespace RelaySnapshot

namespace Date

theorem of?_eq_some {year : Int} {month day : Nat} {date : Date}
    (h : of? year month day = some date) :
    date.year = year ∧ date.month = month ∧ date.day = day := by
  rw [of?] at h
  split at h
  · split at h
    · split at h
      · cases h
        exact ⟨rfl, rfl, rfl⟩
      · cases h
    · cases h
  · cases h

theorem daysBeforeMonth_one (year : Int) : daysBeforeMonth year 1 = 0 := rfl

theorem daysInMonth_twelve (year : Int) : daysInMonth year 12 = 31 := rfl

/-- The months before the next one are those before this one, and this one. -/
theorem daysBeforeMonth_succ (year : Int) {month : Nat} (hmonth : 1 ≤ month ∧ month < 12) :
    daysBeforeMonth year (month + 1) = daysBeforeMonth year month + daysInMonth year month := by
  obtain ⟨hlow, hhigh⟩ := hmonth
  interval_cases month <;> cases hleap : leapYear year <;>
    simp [daysBeforeMonth, daysInMonth, hleap]

theorem leapYear_iff {year : Int} :
    leapYear year = true ↔ year % 4 = 0 ∧ (year % 100 ≠ 0 ∨ year % 400 = 0) := by
  simp [leapYear]

/-- A year has 365 days, or 366. -/
theorem daysBeforeYear_succ (year : Int) :
    daysBeforeYear (year + 1) =
      daysBeforeYear year + daysBeforeMonth year 12 + daysInMonth year 12 := by
  have hyear := @leapYear_iff year
  have hmonth : daysBeforeMonth year 12 = if leapYear year then 335 else 334 := by
    simp [daysBeforeMonth]
  rw [hmonth, daysBeforeYear, daysBeforeYear]
  simp only [daysInMonth]
  split
  · rename_i hleap
    have := hyear.mp hleap
    omega
  · rename_i hleap
    have := mt hyear.mpr hleap
    omega

theorem number_of_pred? {date day : Date} (h : date.pred? = some day) :
    day.number = date.number - 1 := by
  have hmonth := date.month_mem
  have hday := date.day_mem
  rw [pred?] at h
  split at h
  · obtain ⟨hy, hm, hd⟩ := of?_eq_some h
    rw [number, number, hy, hm, hd]
    omega
  · split at h
    · obtain ⟨hy, hm, hd⟩ := of?_eq_some h
      have hsucc := @daysBeforeMonth_succ date.year (date.month - 1) (by omega)
      rw [Nat.sub_add_cancel (by omega)] at hsucc
      rw [number, number, hy, hm, hd, hsucc]
      omega
    · obtain ⟨hy, hm, hd⟩ := of?_eq_some h
      have hsucc := daysBeforeYear_succ (date.year - 1)
      have hfirst : date.month = 1 := by omega
      rw [Int.sub_add_cancel, daysInMonth_twelve] at hsucc
      rw [number, number, hy, hm, hd, hfirst, daysBeforeMonth_one, hsucc]
      omega

theorem exists_pred? {date : Date} (hday : date.day = 1)
    (hfirst : date.year ≠ firstYear ∨ date.month ≠ 1) : ∃ day, date.pred? = some day := by
  have hyear := date.year_mem
  have hmonth := date.month_mem
  rw [pred?, if_neg (by omega)]
  split
  · have hlength : 1 ≤ daysInMonth date.year (date.month - 1) := by
      unfold daysInMonth
      split <;> (try split) <;> decide
    rw [of?, dif_pos hyear, dif_pos (by omega), dif_pos ⟨hlength, le_rfl⟩]
    exact ⟨_, rfl⟩
  · have hrange : firstYear ≤ date.year - 1 ∧ date.year - 1 ≤ lastYear := by omega
    have hlast : 1 ≤ 31 ∧ 31 ≤ daysInMonth (date.year - 1) 12 := ⟨by decide, le_rfl⟩
    rw [of?, dif_pos hrange, dif_pos (by decide), dif_pos hlast]
    exact ⟨_, rfl⟩

/-- After the first year of the calendar each day has a day before, in its year or the last one. -/
theorem exists_pred?_of_lt {date : Date} (hyear : firstYear < date.year) :
    ∃ day, date.pred? = some day ∧ date.year - 1 ≤ day.year ∧ day.year ≤ date.year := by
  have hpred : ∃ day, date.pred? = some day := by
    by_cases hday : date.day = 1
    · exact exists_pred? hday (.inl (by omega))
    · have hrange := date.day_mem
      rw [pred?, if_pos (by omega), of?, dif_pos date.year_mem, dif_pos date.month_mem,
        dif_pos (by omega)]
      exact ⟨_, rfl⟩
  obtain ⟨day, hday⟩ := hpred
  refine ⟨day, hday, ?_⟩
  rw [pred?] at hday
  split at hday
  · obtain ⟨hsame, -⟩ := of?_eq_some hday
    omega
  · split at hday
    all_goals
      obtain ⟨hsame, -⟩ := of?_eq_some hday
      omega

/-! ### Each day has its own number -/

theorem daysBeforeYear_le {year year' : Int} (h : year ≤ year') :
    daysBeforeYear year ≤ daysBeforeYear year' := by
  rw [daysBeforeYear, daysBeforeYear]
  omega

theorem daysBeforeMonth_add_le (year : Int) {month month' : Nat} (hlow : 1 ≤ month)
    (h : month < month') (hhigh : month' ≤ 12) :
    daysBeforeMonth year month + daysInMonth year month ≤ daysBeforeMonth year month' := by
  induction month', h using Nat.le_induction with
  | base => exact (daysBeforeMonth_succ year ⟨hlow, by omega⟩).ge
  | succ month' hle ih =>
      rw [daysBeforeMonth_succ year ⟨by omega, by omega⟩]
      have := ih (by omega)
      omega

theorem number_lt_of_year_lt {date date' : Date} (h : date.year < date'.year) :
    date.number < date'.number := by
  have hend : daysBeforeMonth date.year date.month + date.day ≤
      daysBeforeMonth date.year 12 + daysInMonth date.year 12 := by
    have hday := date.day_mem.2
    rcases Nat.lt_or_ge date.month 12 with hmonth | hmonth
    · have := daysBeforeMonth_add_le date.year date.month_mem.1 hmonth (Nat.le_refl 12)
      omega
    · have hlast : date.month = 12 := Nat.le_antisymm date.month_mem.2 hmonth
      rw [hlast] at hday ⊢
      omega
  have hyears := daysBeforeYear_le (Int.add_one_le_of_lt h)
  rw [daysBeforeYear_succ] at hyears
  have hday' := date'.day_mem.1
  rw [number, number]
  omega

theorem number_lt_of_month_lt {date date' : Date} (hyear : date.year = date'.year)
    (h : date.month < date'.month) : date.number < date'.number := by
  have hmonths := daysBeforeMonth_add_le date'.year date.month_mem.1 h date'.month_mem.2
  have hday := date.day_mem.2
  have hday' := date'.day_mem.1
  rw [hyear] at hday
  rw [number, number, hyear]
  omega

theorem number_injective {date date' : Date} (h : date.number = date'.number) : date = date' := by
  have hyear : date.year = date'.year := by
    rcases Int.lt_trichotomy date.year date'.year with hlt | heq | hgt
    · have := number_lt_of_year_lt hlt
      omega
    · exact heq
    · have := number_lt_of_year_lt hgt
      omega
  have hmonth : date.month = date'.month := by
    rcases Nat.lt_trichotomy date.month date'.month with hlt | heq | hgt
    · have := number_lt_of_month_lt hyear hlt
      omega
    · exact heq
    · have := number_lt_of_month_lt hyear.symm hgt
      omega
  have hday : date.day = date'.day := by
    rw [number, number, hyear, hmonth] at h
    omega
  cases date
  cases date'
  simp_all

end Date

namespace Instant

variable {a b c : Instant}

theorem lt_iff : a < b ↔ a.rank < b.rank :=
  Iff.rfl

theorem le_refl (a : Instant) : a ≤ a :=
  Int.le_refl a.rank

theorem le_trans (hab : a ≤ b) (hbc : b ≤ c) : a ≤ c :=
  Int.le_trans hab hbc

theorem le_total (a b : Instant) : a ≤ b ∨ b ≤ a :=
  Int.le_total a.rank b.rank

theorem le_of_lt (h : a < b) : a ≤ b :=
  Int.le_of_lt h

theorem not_le : ¬a ≤ b ↔ b < a :=
  Int.not_le

theorem not_lt : ¬a < b ↔ b ≤ a :=
  Int.not_lt

theorem lt_of_lt_of_le (hab : a < b) (hbc : b ≤ c) : a < c :=
  Int.lt_of_lt_of_le hab hbc

theorem lt_of_le_of_lt (hab : a ≤ b) (hbc : b < c) : a < c :=
  Int.lt_of_le_of_lt hab hbc

theorem lt_irrefl (a : Instant) : ¬a < a :=
  Int.lt_irrefl a.rank

theorem rank_injective (h : a.rank = b.rank) : a = b := by
  obtain ⟨date, second, leap, hsecond, hend⟩ := a
  obtain ⟨date', second', leap', hsecond', hend'⟩ := b
  rw [rank, rank] at h
  simp only at h
  have hnumber : date.number = date'.number := by
    split at h <;> split at h <;> omega
  have hclock : second = second' := by
    split at h <;> split at h <;> omega
  have hleap : leap = leap' := by
    cases leap <;> cases leap' <;> simp_all
  cases Date.number_injective hnumber
  subst hclock hleap
  rfl

theorem le_antisymm (hab : a ≤ b) (hba : b ≤ a) : a = b :=
  rank_injective (Int.le_antisymm hab hba)

theorem rank_of_on {date : Option Date} {second : Nat} {hsecond : second < 86400} {t : Instant}
    (h : on date second hsecond = .ok t) :
    ∃ day, date = some day ∧ t.rank = 2 * (86400 * day.number + second) := by
  cases date with
  | none => cases h
  | some day =>
      cases h
      exact ⟨day, rfl, by simp [rank]⟩

/-- Backdating leads to an earlier instant, from a leap second as well. -/
theorem lt_of_dayBefore {t s : Instant} (h : t.dayBefore = .ok s) : s < t := by
  have hrank : t.rank = 2 * (86400 * t.date.number + t.second) + if t.leap then 1 else 0 := rfl
  rw [lt_iff, hrank]
  rw [dayBefore] at h
  split at h
  · rename_i hleap
    rw [hleap, if_pos rfl]
    split at h
    · obtain ⟨day, hday, hs⟩ := rank_of_on h
      rw [hs, Date.number_of_pred? hday]
      omega
    · cases h
      simp only [midnight, rank]
      omega
  · rename_i hleap
    obtain ⟨day, hday, hs⟩ := rank_of_on h
    rw [hs, Date.number_of_pred? hday, if_neg hleap]
    omega

theorem exists_dayBefore {t : Instant} (hyear : Date.firstYear < t.date.year) :
    ∃ s, t.dayBefore = .ok s ∧ t.date.year - 1 ≤ s.date.year ∧ s.date.year ≤ t.date.year := by
  obtain ⟨day, hday, hyears⟩ := Date.exists_pred?_of_lt hyear
  rw [dayBefore, hday]
  split
  · split
    · exact ⟨_, rfl, hyears⟩
    · refine ⟨_, rfl, ?_⟩
      change t.date.year - 1 ≤ t.date.year ∧ t.date.year ≤ t.date.year
      omega
  · exact ⟨_, rfl, hyears⟩

end Instant

namespace Month

/-- A month has an end unless the calendar begins right after it. -/
theorem exists_lastInstant (month : Month)
    (hmonth : month.next.index ≠ 12 * Date.firstYear) :
    ∃ finish, month.lastInstant = .ok finish := by
  have hpred : ∃ day, month.next.firstDay.pred? = some day := by
    rw [firstDay]
    cases hday : Date.of? month.next.year month.next.number 1 with
    | none => exact ⟨_, rfl⟩
    | some day =>
        obtain ⟨hyear, hnumber, hfirst⟩ := Date.of?_eq_some hday
        refine Date.exists_pred? hfirst ?_
        change day.year ≠ _ ∨ day.month ≠ _
        rw [hyear, hnumber, year, number]
        omega
  obtain ⟨day, hday⟩ := hpred
  rw [lastInstant, Instant.beforeDay, hday]
  exact ⟨_, rfl⟩

end Month

end RelaySnapshot
