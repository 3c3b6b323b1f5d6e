namespace RelaySnapshot

def leapYear (year : Int) : Bool :=
  year % 4 == 0 && (year % 100 != 0 || year % 400 == 0)

def daysInMonth (year : Int) (month : Nat) : Nat :=
  match month with
  | 2 => if leapYear year then 29 else 28
  | 4 | 6 | 9 | 11 => 30
  | _ => 31

namespace Date

def firstYear : Int := -262143

def lastYear : Int := 262142

end Date

structure Date where
  year : Int
  month : Nat
  day : Nat
  year_mem : Date.firstYear ≤ year ∧ year ≤ Date.lastYear
  month_mem : 1 ≤ month ∧ month ≤ 12
  day_mem : 1 ≤ day ∧ day ≤ daysInMonth year month
  deriving DecidableEq, Repr

namespace Date

def of? (year : Int) (month day : Nat) : Option Date :=
  if hy : firstYear ≤ year ∧ year ≤ lastYear then
    if hm : 1 ≤ month ∧ month ≤ 12 then
      if hd : 1 ≤ day ∧ day ≤ daysInMonth year month then
        some ⟨year, month, day, hy, hm, hd⟩
      else none
    else none
  else none

def epoch : Date :=
  ⟨1970, 1, 1, by decide, by decide, by decide⟩

instance : Inhabited Date := ⟨epoch⟩

def daysBeforeMonth (year : Int) (month : Nat) : Nat :=
  let common := match month with
    | 1 => 0 | 2 => 31 | 3 => 59 | 4 => 90 | 5 => 120 | 6 => 151
    | 7 => 181 | 8 => 212 | 9 => 243 | 10 => 273 | 11 => 304 | _ => 334
  if 2 < month && leapYear year then common + 1 else common

/-- The days before the first of January of a year, counted from 0001-01-01. -/
def daysBeforeYear (year : Int) : Int :=
  let past := year - 1
  365 * past + past / 4 - past / 100 + past / 400

def number (date : Date) : Int :=
  daysBeforeYear date.year + daysBeforeMonth date.year date.month + date.day - 719163

/-- The day before, unless the calendar begins with this one. -/
def pred? (date : Date) : Option Date :=
  if 1 < date.day then of? date.year date.month (date.day - 1)
  else if 1 < date.month then
    of? date.year (date.month - 1) (daysInMonth date.year (date.month - 1))
  else of? (date.year - 1) 12 31

end Date

end RelaySnapshot
