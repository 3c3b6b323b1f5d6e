import RelaySnapshot.Text.Decimal
import RelaySnapshot.Toml.Reader

namespace RelaySnapshot.Toml.Reader

def fixedDigits (width : Nat) : Reader Nat := do
  let rest ← get
  let digits := (rest.take width).takeWhile Char.isDigit
  if digits.length = width then set (rest.drop width) *> return Decimal.value digits else fail

def bounded (low high : Nat) : Reader Nat :=
  converted (fixedDigits 2) fun n =>
    if low ≤ n ∧ n ≤ high then .ok n else .error (some .outOfRange)

def isLeapYear (year : Nat) : Bool :=
  year % 4 == 0 && (year % 100 != 0 || year % 400 == 0)

def daysIn (year month : Nat) : Nat :=
  if month = 2 then if isLeapYear year then 29 else 28
  else if [4, 6, 9, 11].contains month then 30
  else 31

def date : Reader Text := do
  let year ← fixedDigits 4
  char '-'
  final do
    let month ← bounded 1 12
    char '-'
    let day ← converted (bounded 1 31) fun day =>
      if day ≤ daysIn year month then .ok day else .error (some .outOfRange)
    return Decimal.writePadded 4 year ++ '-' :: Decimal.writePadded 2 month ++
      '-' :: Decimal.writePadded 2 day

/-- Reads the places of a fraction of a second, and returns them without needless zeros. -/
def secondFraction : Reader Text := do
  char '.'
  let places ← nonemptyRun Char.isDigit
  let places := ((places.take 9).reverse.dropWhile (· == '0')).reverse
  return if places.isEmpty then [] else '.' :: places

def time : Reader Text := do
  let hour ← bounded 0 23
  char ':'
  final do
    let minute ← bounded 0 59
    char ':'
    let second ← bounded 0 60
    let fraction ← optional secondFraction
    return Decimal.writePadded 2 hour ++ ':' :: Decimal.writePadded 2 minute ++
      ':' :: Decimal.writePadded 2 second ++ fraction.getD []

/-- Reads an offset from universal time; no offset is negative that is zero. -/
def offset : Reader Text :=
  let amount : Reader Text := do
    let sign ← one fun c => c == '+' || c == '-'
    final do
      let hours ← bounded 0 23
      char ':'
      let minutes ← bounded 0 59
      let sign := if hours = 0 ∧ minutes = 0 then '+' else sign
      return sign :: Decimal.writePadded 2 hours ++ ':' :: Decimal.writePadded 2 minutes
  labelled "time offset" <|
    either (do let _ ← one (fun c => c == 'Z' || c == 'z'); return ['Z']) amount

def timeOfDate : Reader Text := do
  let _ ← one fun c => c == 'T' || c == 't' || c == ' '
  let time ← time
  let offset ← optional offset
  return 'T' :: time ++ offset.getD []

def moment : Reader Text :=
  either
    (labelled "date-time" (do
      let date ← date
      let time ← optional timeOfDate
      return date ++ time.getD []))
    (labelled "time" time)

end RelaySnapshot.Toml.Reader
