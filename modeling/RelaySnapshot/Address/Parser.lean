import RelaySnapshot.Address
import RelaySnapshot.Text.Decimal
import RelaySnapshot.Text.Hexadecimal

namespace RelaySnapshot.Address

open Text

/-- Reads a byte in decimal: one to three digits, without a leading zero, below 256. -/
def readByte (s : Text) : Option (Nat × Text) :=
  let digits := s.takeWhile Char.isDigit
  let n := Decimal.value digits
  let padded := digits.head? == some '0' && digits.length != 1
  if digits.isEmpty || 3 < digits.length || padded || 255 < n then none
  else some (n, s.drop digits.length)

/-- Reads `count` bytes with points between them; before a later byte its point is read, too. -/
def readBytes : (count : Nat) → (first : Bool) → Text → Option (List Nat × Text)
  | 0, _, s => some ([], s)
  | count + 1, first, s => do
    let s ← if first then some s else dropLeading? ['.'] s
    let (byte, s) ← readByte s
    let (bytes, s) ← readBytes count false s
    return (byte :: bytes, s)

def readGroup (s : Text) : Option (Nat × Text) :=
  let digits := s.takeWhile fun c => (Hexadecimal.digitValue? c).isSome
  if digits.isEmpty || 4 < digits.length then none
  else some (Hexadecimal.value (digits.filterMap Hexadecimal.digitValue?), s.drop digits.length)

/-- A sequence of groups, whether it ends with four bytes, and the text after it. -/
structure Groups where
  values : List Nat
  endsWithBytes : Bool
  rest : Text

/-- Reads as many groups as there are, with colons between them, but at most `room`. -/
def readGroups : (room : Nat) → (first : Bool) → Text → Groups
  | 0, _, s => ⟨[], false, s⟩
  | room + 1, first, s =>
    let after := if first then some s else dropLeading? [':'] s
    let bytes := if room = 0 then none else after.bind (readBytes 4 true)
    match bytes, after.bind readGroup with
    | some ([a, b, c, d], rest), _ => ⟨[256 * a + b, 256 * c + d], true, rest⟩
    | _, some (group, rest) =>
      let more := readGroups room false rest
      ⟨group :: more.values, more.endsWithBytes, more.rest⟩
    | _, none => ⟨[], false, s⟩

def readWord (s : Text) : Option (List Nat × Text) :=
  let head := readGroups 8 true s
  if head.values.length = 8 then some (head.values, head.rest)
  else if head.endsWithBytes then none
  else do
    let rest ← dropLeading? [':', ':'] head.rest
    let tail := readGroups (7 - head.values.length) true rest
    let zeros := List.replicate (8 - head.values.length - tail.values.length) 0
    return (head.values ++ zeros ++ tail.values, tail.rest)

def read? (s : Text) : Option Address :=
  match readBytes 4 true s with
  | some (bytes, rest) => if rest.isEmpty then some (.v4 (ofParts 32 256 bytes)) else none
  | none =>
    match readWord s with
    | some (groups, []) => some (.v6 (ofParts 128 65536 groups))
    | _ => none

def parse? (s : String) : Option Address :=
  read? s.toList

end RelaySnapshot.Address
