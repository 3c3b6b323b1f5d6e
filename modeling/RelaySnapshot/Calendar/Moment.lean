import RelaySnapshot.Calendar.Month

/-!
# Moments

What a clock shows: a second of a day and the nanoseconds of it that have passed. From the first
thousand million on they belong to a leap second, which a clock may show after any second.
-/

namespace RelaySnapshot

structure Moment where
  date : Date
  second : Nat
  nanosecond : Nat
  second_lt : second < 86400
  nanosecond_lt : nanosecond < 2000000000
  deriving Repr

namespace Moment

def rank (x : Moment) : Int :=
  2000000000 * (86400 * x.date.number + x.second) + x.nanosecond

instance : LT Moment := ⟨fun a b => a.rank < b.rank⟩

instance : LE Moment := ⟨fun a b => a.rank ≤ b.rank⟩

end Moment

def Instant.moment (t : Instant) : Moment :=
  ⟨t.date, t.second, if t.leap then 1000000000 else 0, t.second_lt, by split <;> decide⟩

def Month.holds (m : Month) (x : Moment) : Bool :=
  ofDate x.date == m

/-- An instant lies in the month that its first moment lies in. -/
theorem Month.holds_moment (m : Month) (t : Instant) : m.holds t.moment = m.contains t := rfl

end RelaySnapshot
