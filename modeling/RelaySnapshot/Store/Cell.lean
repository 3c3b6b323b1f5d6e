import RelaySnapshot.Double
import RelaySnapshot.Text.Decimal

/-!
# Cells

The values that a table holds. A column prefers one kind of value and changes others into it where
nothing is lost: text that looks like a number becomes one in a column of numbers, and a number
becomes text in a column of text.
-/

namespace RelaySnapshot

inductive Cell where
  | null
  | integer (value : Int)
  | real (value : Double)
  | text (value : String)
  deriving DecidableEq, Repr

namespace Cell

def typeName : Cell → String
  | .null => "Null"
  | .integer _ => "Integer"
  | .real _ => "Real"
  | .text _ => "Text"

/-- A number that is not one is stored as null. -/
def ofDouble (x : Double) : Cell :=
  if x.isNaN then .null else .real x

def scaled? : Cell → Option Int
  | .integer i => some (i * Nat.pow 2 1074)
  | .real x => some x.scaled
  | _ => none

/-- The order in which rows are read: null, then numbers by their value, then text. -/
def le (a b : Cell) : Bool :=
  match a, b with
  | .null, _ => true
  | _, .null => false
  | .text s, .text t => decide (s ≤ t)
  | .text _, _ => false
  | _, .text _ => true
  | a, b => decide (a.scaled?.getD 0 ≤ b.scaled?.getD 0)

/-- The kind of value that a column prefers. -/
inductive Affinity where
  | text
  | number
  /-- Doubles, also for whole numbers. -/
  | real
  deriving DecidableEq, Repr

def isSpace (c : Char) : Bool :=
  c == ' ' || (9 ≤ c.toNat && c.toNat ≤ 13)

def ofWhole (x : Double) : Cell :=
  match x.toInt? with
  | some i => if -(Nat.pow 2 63) < i ∧ i < Nat.pow 2 63 - 1 then .integer i else .real x
  | none => .real x

/-- The sign of a number, whether it is negative, and the text after it. -/
def splitSign : Text → Bool × Text
  | '-' :: rest => (true, rest)
  | '+' :: rest => (false, rest)
  | s => (false, s)

/-- The exponent that a text begins with, if any, and the text after it; a lone `e` is malformed. -/
def readExponent? (s : Text) : Option (Option Int × Text) :=
  match s with
  | c :: rest =>
    if c = 'e' ∨ c = 'E' then
      let (negative, rest) := splitSign rest
      let digits := rest.takeWhile Char.isDigit
      let size : Int := min (Decimal.value digits) 10000
      if digits.isEmpty then none
      else some (some (if negative then -size else size), rest.drop digits.length)
    else some (none, s)
  | [] => some (none, [])

def ofNumeral? (s : Text) : Option Cell :=
  let (negative, s) := splitSign (s.dropWhile isSpace)
  let whole := s.takeWhile Char.isDigit
  let s := s.drop whole.length
  let (fraction, s, pointed) := match s with
    | '.' :: rest =>
      let fraction := rest.takeWhile Char.isDigit
      (fraction, rest.drop fraction.length, true)
    | s => ([], s, false)
  match readExponent? s with
  | none => none
  | some (exponent, s) =>
    if (whole ++ fraction).isEmpty || !s.all isSpace then none
    else
      let size := Decimal.value (whole ++ fraction)
      let signed : Int := if negative then -size else size
      if !pointed && exponent.isNone && -(Nat.pow 2 63) ≤ signed && signed < Nat.pow 2 63 then
        some (.integer signed)
      else
        let x := Double.ofDecimal size (exponent.getD 0 - fraction.length)
        some (ofWhole (if negative then x.negate else x))

/-- The exponent of the first digit of a number and its first `count` digits, rounded. -/
def significantDigits (count : Nat) (x : Double) : Int × Text :=
  let exponent := x.decimalExponent
  let den := Nat.pow 2 1074
  let shift : Int := (count : Int) - 1 - exponent
  let (num, den) :=
    if 0 ≤ shift then (x.units * Nat.pow 10 shift.toNat, den)
    else (x.units, den * Nat.pow 10 (-shift).toNat)
  let rounded := (2 * num + den) / (2 * den)
  if rounded < Nat.pow 10 count then (exponent, Decimal.write rounded)
  else (exponent + 1, Decimal.write (rounded / 10))

def dropZeros (s : Text) : Text :=
  (s.reverse.dropWhile (· == '0')).reverse

/-- The text of a number: fifteen digits at most, always with a point. -/
def writeDouble (x : Double) : Text :=
  let sign : Text := if x.isNegative && !x.isZero then ['-'] else []
  if x.isInfinite then sign ++ "Inf".toList
  else if x.isZero then "0.0".toList
  else
    let (exponent, digits) := significantDigits 15 x
    let pointed (whole fraction : Text) : Text :=
      let fraction := dropZeros fraction
      whole ++ '.' :: if fraction.isEmpty then ['0'] else fraction
    if exponent < -4 ∨ 14 < exponent then
      let size := exponent.natAbs
      sign ++ pointed (digits.take 1) (digits.drop 1) ++
        'e' :: (if exponent < 0 then '-' else '+') :: Decimal.writePadded 2 size
    else if exponent < 0 then
      sign ++ pointed ['0'] (List.replicate (exponent.natAbs - 1) '0' ++ digits)
    else
      sign ++ pointed (digits.take (exponent.toNat + 1)) (digits.drop (exponent.toNat + 1))

/-- The value as a column with the given preference keeps it. -/
def prefer (affinity : Affinity) (cell : Cell) : Cell :=
  match affinity, cell with
  | .text, .integer i => .text (String.ofList (Decimal.writeInt i))
  | .text, .real x => .text (String.ofList (writeDouble x))
  | .text, cell => cell
  | .number, .text s => (ofNumeral? s.toList).getD (.text s)
  | .number, .real x => ofWhole x
  | .number, cell => cell
  | .real, .text s =>
    match ofNumeral? s.toList with
    | some (.integer i) => .real (.ofInt i)
    | some number => number
    | none => .text s
  | .real, .integer i => .real (.ofInt i)
  | .real, .real x => .real (if x.isZero then .zero else x)
  | .real, .null => .null

end Cell

end RelaySnapshot
