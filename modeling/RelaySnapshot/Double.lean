namespace RelaySnapshot

structure Double where
  bits : UInt64
  deriving DecidableEq, Repr

namespace Double

def exponent (x : Double) : Nat :=
  x.bits.toNat / Nat.pow 2 52 % Nat.pow 2 11

/-- The bits after the point of the significand. -/
def fraction (x : Double) : Nat :=
  x.bits.toNat % Nat.pow 2 52

def isNaN (x : Double) : Bool :=
  x.exponent == 2047 && x.fraction != 0

def isNegative (x : Double) : Bool :=
  Nat.pow 2 63 ≤ x.bits.toNat

def isZero (x : Double) : Bool :=
  x.bits.toNat % Nat.pow 2 63 == 0

def zero : Double :=
  ⟨0⟩

/--
Whether a quotient `low` has to be rounded up, given the remainder: a tie goes to the even one.
-/
def roundsUp (low rest den : Nat) : Bool :=
  den < 2 * rest || (den == 2 * rest && low % 2 == 1)

/--
The double nearest to a positive quotient; of two at the same distance, the one with even bits.
-/
def ofRatio (num den : Nat) : Double :=
  if num = 0 ∨ den = 0 then zero
  else
    let guess : Int := (num.log2 : Int) - den.log2
    let fits :=
      if 0 ≤ guess then den * Nat.pow 2 guess.toNat ≤ num else den ≤ num * Nat.pow 2 (-guess).toNat
    let top := if fits then guess else guess - 1
    let scale := max (top - 52) (-1074)
    let num := if 0 ≤ scale then num else num * Nat.pow 2 (-scale).toNat
    let den := if 0 ≤ scale then den * Nat.pow 2 scale.toNat else den
    let low := num / den
    let significand := low + if roundsUp low (num % den) den then 1 else 0
    let bits := (scale + 1074).toNat * Nat.pow 2 52 + significand
    ⟨.ofNat (min bits (2047 * Nat.pow 2 52))⟩

def notANumber : Double :=
  ⟨0x7FF8000000000000⟩

def infinity : Double :=
  ⟨0x7FF0000000000000⟩

/--
The number `significand · 10 ^ exponent`, rounded. Beyond `10 ^ 400` and below `10 ^ (-400)` the
result is known without the power of ten.
-/
def ofDecimal (significand : Nat) (exponent : Int) : Double :=
  if significand = 0 ∨ exponent + significand.log2 / 3 + 1 < -400 then zero
  else if 400 < exponent then infinity
  else if 0 ≤ exponent then ofRatio (significand * Nat.pow 10 exponent.toNat) 1
  else ofRatio significand (Nat.pow 10 (-exponent).toNat)

def ofNat (n : Nat) : Double :=
  ofRatio n 1

def negate (x : Double) : Double :=
  ⟨x.bits ^^^ 0x8000000000000000⟩

def ofInt (i : Int) : Double :=
  if i < 0 then (ofNat i.natAbs).negate else ofNat i.natAbs

/-- The magnitude of a number in units of `2 ^ (-1074)`; infinity counts as `2 ^ 1024`. -/
def units (x : Double) : Nat :=
  if x.exponent = 0 then x.fraction
  else (Nat.pow 2 52 + x.fraction) * Nat.pow 2 (x.exponent - 1)

def scaled (x : Double) : Int :=
  if x.isNegative then -x.units else x.units

def isInfinite (x : Double) : Bool :=
  x.exponent == 2047 && x.fraction == 0

/-- The exponent of the first digit of a positive number, written as a decimal numeral. -/
def decimalExponent (x : Double) : Int :=
  let den := Nat.pow 2 1074
  let reaches (exponent : Int) : Bool :=
    if 0 ≤ exponent then Nat.pow 10 exponent.toNat * den ≤ x.units
    else den ≤ x.units * Nat.pow 10 (-exponent).toNat
  (((List.range 640).map fun n : Nat => (308 : Int) - n).find? reaches).getD (-324)

def times (x y : Double) : Double :=
  ofRatio (x.units * y.units) (Nat.pow 2 1074 * Nat.pow 2 1074)

def dividedBy (x y : Double) : Double :=
  ofRatio x.units y.units

def toInt? (x : Double) : Option Int :=
  if x.exponent = 2047 ∨ x.units % Nat.pow 2 1074 ≠ 0 then none
  else some (x.scaled / Nat.pow 2 1074)

end Double

end RelaySnapshot
