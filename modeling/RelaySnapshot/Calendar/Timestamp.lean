import RelaySnapshot.Calendar.Instant
import RelaySnapshot.Text.Decimal

/-!
# Timestamps

The text of an instant, `2020-03-01 00:30:00`. Writing has one form for each instant. Reading is
laxer: blanks may stand before each number, and numbers need not be filled up with zeros.
-/

namespace RelaySnapshot.Timestamp

open Text

/-- The text of a year: four digits up to 9999, else a sign and at least four digits. -/
def writeYear (year : Int) : Text :=
  if 0 ≤ year ∧ year ≤ 9999 then Decimal.writePadded 4 year.toNat
  else (if year < 0 then '-' else '+') :: Decimal.writePadded 4 year.natAbs

def writeDate (date : Date) : Text :=
  writeYear date.year ++ '-' :: Decimal.writePadded 2 date.month ++
    '-' :: Decimal.writePadded 2 date.day

/-- The text of a time of day; the leap second of a minute is its second 60. -/
def writeTime (second : Nat) (leap : Bool) : Text :=
  Decimal.writePadded 2 (second / 3600) ++ ':' :: Decimal.writePadded 2 (second / 60 % 60) ++
    ':' :: Decimal.writePadded 2 (second % 60 + if leap then 1 else 0)

def write (t : Instant) : Text :=
  writeDate t.date ++ ' ' :: writeTime t.second t.leap

inductive ReadError where
  | tooShort
  | invalid
  | outOfRange
  | tooLong
  deriving DecidableEq, Repr

def ReadError.message : ReadError → String
  | .tooShort => "premature end of input"
  | .invalid => "input contains invalid characters"
  | .outOfRange => "input is out of range"
  | .tooLong => "trailing input"

/-- A step of reading: a value and the text after it. -/
abbrev Reader (α : Type) := Text → Except ReadError (α × Text)

def leadingDigits (width : Option Nat) (s : Text) : Text × Text :=
  let digits := match width with
    | some width => (s.take width).takeWhile Char.isDigit
    | none => s.takeWhile Char.isDigit
  (digits, s.drop digits.length)

/-- Reads a number of one to `width` digits that lies between `low` and `high`. -/
def readDigits (width : Option Nat) (negative : Bool) (low high : Int) : Reader Int := fun s =>
  match leadingDigits width s with
  | ([], []) => .error .tooShort
  | ([], _ :: _) => .error .invalid
  | (digits, rest) =>
    let n : Int := if negative then -(Decimal.value digits) else Decimal.value digits
    if low ≤ n ∧ n ≤ high then .ok (n, rest) else .error .outOfRange

/-- Reads an unsigned number of at most two digits, after any blanks. -/
def readNumber (low high : Nat) : Reader Nat := fun s => do
  let (n, rest) ← readDigits (some 2) false low high (trimStart s)
  return (n.toNat, rest)

/-- Reads a year, after any blanks: up to four digits, or a sign and any number of them. -/
def readYear : Reader Int := fun s =>
  let low : Int := -(Nat.pow 2 31)
  let high : Int := Nat.pow 2 31 - 1
  match trimStart s with
  | '-' :: s => readDigits none true low high s
  | '+' :: s => readDigits none false low high s
  | s => readDigits (some 4) false low high s

def skip (c : Char) : Text → Except ReadError Text
  | [] => .error .tooShort
  | d :: rest => if d = c then .ok rest else .error .invalid

def read (s : Text) : Except ReadError Instant := do
  let (year, s) ← readYear s
  let (month, s) ← readNumber 1 12 (← skip '-' s)
  let (day, s) ← readNumber 1 31 (← skip '-' s)
  let (hour, s) ← readNumber 0 23 (trimStart s)
  let (minute, s) ← readNumber 0 59 (← skip ':' s)
  let (second, s) ← readNumber 0 60 (← skip ':' s)
  unless s.isEmpty do throw .tooLong
  match Date.of? year month day with
  | none => throw .outOfRange
  | some date =>
    match Instant.of? date hour minute second with
    | none => throw .outOfRange
    | some t => return t

end RelaySnapshot.Timestamp
