import RelaySnapshot.Double
import RelaySnapshot.Text.Decimal

namespace RelaySnapshot.Double

structure Numeral where
  significand : Nat
  exponent : Int
  deriving DecidableEq, Repr

namespace Numeral

/--
A fraction over `2 * 2 ^ 1074` that equals the numeral, by its numerator and by what the denominator
has to be multiplied with.
-/
def halfUnits (n : Numeral) : Nat × Nat :=
  let num := 2 * n.significand * Nat.pow 2 1074
  if 0 ≤ n.exponent then (num * Nat.pow 10 n.exponent.toNat, 1)
  else (num, Nat.pow 10 (-n.exponent).toNat)

/-- Whether the positive number `x` is the double nearest to the numeral; ties go to even bits. -/
def readsAs (n : Numeral) (x : Double) : Bool :=
  let (num, scale) := n.halfUnits
  let low := ((⟨x.bits - 1⟩ : Double).units + x.units) * scale
  let high := (x.units + (⟨x.bits + 1⟩ : Double).units) * scale
  if x.bits % 2 = 0 then decide (low ≤ num ∧ num ≤ high) else decide (low < num ∧ num < high)

/-- How far the numeral is from `x`, for comparison among numerals with one exponent. -/
def distance (n : Numeral) (x : Double) : Nat :=
  let (num, scale) := n.halfUnits
  ((num : Int) - (2 * x.units * scale : Nat)).natAbs

def write (n : Numeral) : Text :=
  let digits := Decimal.write n.significand
  if 0 ≤ n.exponent then digits ++ List.replicate n.exponent.toNat '0'
  else
    let places := (-n.exponent).toNat
    let digits := List.replicate (places + 1 - digits.length) '0' ++ digits
    let whole := digits.take (digits.length - places)
    let fraction := ((digits.drop whole.length).reverse.dropWhile (· == '0')).reverse
    if fraction.isEmpty then whole else whole ++ '.' :: fraction

end Numeral

/-- The two numerals next to the positive number `x` among those with a number of digits. -/
def neighbours (x : Double) (digits : Nat) : List Numeral :=
  let exponent := x.decimalExponent - digits + 1
  let low :=
    if 0 ≤ exponent then x.units / (Nat.pow 2 1074 * Nat.pow 10 exponent.toNat)
    else x.units * Nat.pow 10 (-exponent).toNat / Nat.pow 2 1074
  [⟨low, exponent⟩, ⟨low + 1, exponent⟩]

/-- The nearer one of the neighbours that read back as `x`, if there is one. -/
def nearest? (x : Double) (digits : Nat) : Option Numeral :=
  match (x.neighbours digits).filter (·.readsAs x) with
  | [] => none
  | [n] => some n
  | a :: b :: _ => some (if b.distance x < a.distance x then b else a)

/-- Seventeen digits are always enough. -/
def shortest (x : Double) : Numeral :=
  ((List.range 17).findSome? fun n => x.nearest? (n + 1)).getD ⟨0, 0⟩

/-- The shortest numeral of a number, which has a point only where a fraction follows. -/
def write (x : Double) : Text :=
  let sign : Text := if x.isNegative then ['-'] else []
  if x.isNaN then "NaN".toList
  else if x.isInfinite then sign ++ "inf".toList
  else if x.isZero then sign ++ ['0']
  else sign ++ x.shortest.write

/-! ### Reading -/

/-- Reads an exponent after `e`, if one follows; the rest of the text has to be digits. -/
def readExponent? : Text → Option Int
  | [] => some 0
  | mark :: s =>
    let (negative, digits) := match s with
      | '-' :: digits => (true, digits)
      | '+' :: digits => (false, digits)
      | digits => (false, digits)
    if mark.toLower != 'e' || digits.isEmpty || !digits.all Char.isDigit then none
    else some (if negative then -(Decimal.value digits : Int) else Decimal.value digits)

/-- Reads digits with at most one point among or around them, and an exponent after them. -/
def readMagnitude? (s : Text) : Option Double :=
  let whole := s.takeWhile Char.isDigit
  let rest := s.drop whole.length
  let (fraction, rest) := match rest with
    | '.' :: rest =>
      let fraction := rest.takeWhile Char.isDigit
      (fraction, rest.drop fraction.length)
    | rest => ([], rest)
  if (whole ++ fraction).isEmpty then none
  else (readExponent? rest).map fun exponent =>
    ofDecimal (Decimal.value (whole ++ fraction)) (exponent - fraction.length)

/-- Reads a numeral with or without a sign, or one of the words for what is not finite. -/
def read? (s : Text) : Option Double :=
  let (negative, s) := match s with
    | '-' :: s => (true, s)
    | '+' :: s => (false, s)
    | s => (false, s)
  let lower := Text.lowerCaseAscii s
  let magnitude :=
    if lower = "inf".toList ∨ lower = "infinity".toList then some infinity
    else if lower = "nan".toList then some notANumber
    else readMagnitude? s
  magnitude.map fun x => if negative then x.negate else x

/-- The nearest integer, with halves away from zero; infinities lie beyond every bound. -/
def roundAway (x : Double) : Int :=
  let size : Int := (2 * x.units + Nat.pow 2 1074) / (2 * Nat.pow 2 1074)
  if x.isNegative then -size else size

end RelaySnapshot.Double
