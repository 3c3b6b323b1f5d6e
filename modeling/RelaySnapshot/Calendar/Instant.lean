import RelaySnapshot.Calendar.Date

/-!
# Instants

A second of a day. Every minute may have a leap second: it follows second 59 of its minute and comes
before the next minute.
-/

namespace RelaySnapshot

structure Instant where
  date : Date
  /-- The second of the day; that of a leap second is the one before it. -/
  second : Nat
  leap : Bool
  second_lt : second < 86400
  leap_at_end : leap = true → second % 60 = 59
  deriving DecidableEq, Repr

inductive CalendarError where
  /-- The result lies before the first day of the calendar. -/
  | beforeFirstDay
  deriving DecidableEq, Repr

def CalendarError.message : CalendarError → String
  | .beforeFirstDay => "`DateTime - TimeDelta` overflowed"

namespace Instant

def midnight (date : Date) : Instant :=
  ⟨date, 0, false, by decide, fun h => absurd h Bool.false_ne_true⟩

instance : Inhabited Instant := ⟨midnight Date.epoch⟩

/-- The instant at a time of day; second 60 is the leap second of its minute. -/
def of? (date : Date) (hour minute second : Nat) : Option Instant :=
  if h : hour < 24 ∧ minute < 60 ∧ second ≤ 60 then
    if hs : second = 60 then
      some ⟨date, 3600 * hour + 60 * minute + 59, true, by omega, by omega⟩
    else
      some ⟨date, 3600 * hour + 60 * minute + second, false, by omega, by simp⟩
  else none

/-- The place of an instant in the order of time; leap seconds have the odd places. -/
def rank (t : Instant) : Int :=
  2 * (86400 * t.date.number + t.second) + if t.leap then 1 else 0

instance : LT Instant := ⟨fun a b => a.rank < b.rank⟩

instance : LE Instant := ⟨fun a b => a.rank ≤ b.rank⟩

instance (a b : Instant) : Decidable (a < b) :=
  inferInstanceAs (Decidable (a.rank < b.rank))

instance (a b : Instant) : Decidable (a ≤ b) :=
  inferInstanceAs (Decidable (a.rank ≤ b.rank))

/-- Sorts by the time that each item has; items of one time keep their order. -/
def sortBy {α : Type} (time : α → Instant) (items : List α) : List α :=
  items.mergeSort fun a b => decide (time a ≤ time b)

def earlier (a b : Instant) : Instant :=
  if b < a then b else a

def later (a b : Instant) : Instant :=
  if a < b then b else a

def on (date : Option Date) (second : Nat) (h : second < 86400) :
    Except CalendarError Instant :=
  match date with
  | some date => .ok ⟨date, second, false, h, by simp⟩
  | none => .error .beforeFirstDay

/--
The instant one day earlier. A leap second counts as the second after it, so the leap second at the
end of a day goes back to the first second of that day.
-/
def dayBefore (t : Instant) : Except CalendarError Instant :=
  if t.leap then
    if h : t.second + 1 < 86400 then on t.date.pred? (t.second + 1) h
    else .ok (midnight t.date)
  else on t.date.pred? t.second t.second_lt

def beforeDay (date : Date) : Except CalendarError Instant :=
  on date.pred? 86399 (by decide)

end Instant

end RelaySnapshot
