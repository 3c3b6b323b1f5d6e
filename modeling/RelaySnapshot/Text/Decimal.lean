import RelaySnapshot.Text.Basic

namespace RelaySnapshot.Decimal

def digit (n : Nat) : Char :=
  Char.ofNat (48 + n % 10)

def write (n : Nat) : Text :=
  if n < 10 then [digit n] else write (n / 10) ++ [digit n]
termination_by n
decreasing_by omega

/-- The numeral of `n`, filled up with leading zeros to `width` digits. -/
def writePadded (width n : Nat) : Text :=
  List.replicate (width - (write n).length) '0' ++ write n

def value (digits : Text) : Nat :=
  digits.foldl (fun n c => 10 * n + (c.toNat - 48)) 0

/-- Reads a numeral, with or without a plus sign, of a number below `bound`. -/
def read? (bound : Nat) (s : Text) : Option Nat :=
  let digits := (Text.dropLeading? ['+'] s).getD s
  if digits.isEmpty || !digits.all Char.isDigit then none
  else if value digits < bound then some (value digits)
  else none

def readInt? : Text → Option Int
  | '-' :: digits =>
    if digits.head? = some '+' then none
    else (read? (Nat.pow 2 63 + 1) digits).map fun n => -(n : Int)
  | s => (read? (Nat.pow 2 63) s).map fun n => (n : Int)

/-- The numeral of an integer: a minus sign before that of a negative one. -/
def writeInt (n : Int) : Text :=
  if n < 0 then '-' :: write n.natAbs else write n.natAbs

end RelaySnapshot.Decimal
