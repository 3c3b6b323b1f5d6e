import RelaySnapshot.Calendar.Instant
import RelaySnapshot.Text.Decimal
import RelaySnapshot.Text.Quoted

namespace RelaySnapshot

/-- A month, counted from January of the year 0. -/
structure Month where
  index : Int
  deriving DecidableEq, Repr

inductive MonthError where
  | malformed (text : String)
  | outOfRange (text : String)
  deriving DecidableEq, Repr

def MonthError.message : MonthError → String
  | .malformed text => s!"month {Text.quoted text} is not in YYYY-MM format"
  | .outOfRange text =>
    s!"cannot build a snapshot for {text}; supported range is 2007-01 up to the current month"

namespace Month

def year (m : Month) : Int :=
  m.index / 12

def number (m : Month) : Nat :=
  (m.index % 12).toNat + 1

def next (m : Month) : Month :=
  ⟨m.index + 1⟩

def previous (m : Month) : Month :=
  ⟨m.index - 1⟩

instance : LT Month := ⟨fun a b => a.index < b.index⟩

instance (a b : Month) : Decidable (a < b) :=
  inferInstanceAs (Decidable (a.index < b.index))

/-- The text of a year and a month; a minus sign counts as one of the four places of the year. -/
def writeNumbers (year : Int) (number : Nat) : Text :=
  (if year < 0 then '-' :: Decimal.writePadded 3 year.natAbs
    else Decimal.writePadded 4 year.toNat) ++ '-' :: Decimal.writePadded 2 number

def write (m : Month) : Text :=
  writeNumbers m.year m.number

def text (m : Month) : String :=
  String.ofList m.write

def of? (year : Int) (number : Nat) : Except MonthError Month :=
  if 1 ≤ number ∧ number ≤ 12 then .ok ⟨12 * year + (number - 1)⟩
  else .error (.malformed (String.ofList (writeNumbers year number)))

/-- Reads a year of four digits, a dash and a number of two, if there is a month of that number. -/
def read? (s : Text) : Option Month := do
  let (year, number) ← Text.cutAt ['-'] s
  if Text.byteLength year = 4 ∧ Text.byteLength number = 2 ∧ (year ++ number).all Char.isDigit then
    let year ← Decimal.read? (Nat.pow 2 31) year
    let number ← Decimal.read? (Nat.pow 2 32) number
    (of? year number).toOption
  else none

def parse (text : String) : Except MonthError Month :=
  match read? text.toList with
  | some m => .ok m
  | none => .error (.malformed text)

def ofDate (date : Date) : Month :=
  ⟨12 * date.year + ((date.month : Int) - 1)⟩

def of (t : Instant) : Month :=
  ofDate t.date

def contains (m : Month) (t : Instant) : Bool :=
  of t == m

/-- The first day of a month; outside the calendar it is taken to be 1970-01-01. -/
def firstDay (m : Month) : Date :=
  (Date.of? m.year m.number 1).getD Date.epoch

/-- The days from the first of this month to the first of the next, as an unsigned 32-bit number. -/
def days (m : Month) : Nat :=
  ((m.next.firstDay.number - m.firstDay.number) % Nat.pow 2 32).toNat

def firstInstant (m : Month) : Instant :=
  .midnight m.firstDay

def lastInstant (m : Month) : Except CalendarError Instant :=
  Instant.beforeDay m.next.firstDay

/-- The first month that snapshots can be built for, January 2007. -/
def firstSupported : Month :=
  ⟨12 * 2007⟩

/-- Refuses a month before `firstSupported` and a month that has not begun yet. -/
def validate (m : Month) (now : Instant) : Except MonthError Unit :=
  if m < firstSupported ∨ of now < m then .error (.outOfRange m.text) else .ok ()

end Month

end RelaySnapshot
