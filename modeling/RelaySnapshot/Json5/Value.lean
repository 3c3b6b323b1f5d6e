import RelaySnapshot.ConfigValue
import RelaySnapshot.Double.Shortest
import RelaySnapshot.Text.Hexadecimal

namespace RelaySnapshot.Json5

inductive Piece where
  | character (c : Char)
  /-- A character after a backslash. -/
  | escaped (c : Char)
  | nul
  | hexadecimal (digits : Text)
  | unicode (digits : Text)
  deriving DecidableEq, Repr

inductive Value where
  | null
  | flag (b : Bool)
  | number (numeral : Text)
  | text (pieces : List Piece)
  | list (items : List Value)
  | map (entries : List (List Piece × Value))
  deriving Inhabited

/-! ### Texts -/

namespace Piece

def written : Piece → Text
  | character c | escaped c => [c]
  | nul => ['0']
  | hexadecimal digits | unicode digits => digits

def ofEscaped : Char → Char
  | 'b' => '\x08'
  | 'f' => '\x0c'
  | 'n' => '\n'
  | 'r' => '\x0d'
  | 't' => '\t'
  | 'v' => '\x0b'
  | c => c

def code (digits : Text) : Except String Nat :=
  match Hexadecimal.read? digits with
  | some n => if n < Nat.pow 2 32 ∧ digits ≠ [] then .ok n else .error "error parsing hex"
  | none => .error "error parsing hex"

def charOf (n : Nat) : Except String Char :=
  if n.isValidChar then .ok (Char.ofNat n) else .error "invalid unicode character"

/-- The text that pieces make up. A character beyond 16 bits is escaped by two halves. -/
def join : List Piece → Except String Text
  | [] => return []
  | character c :: rest => return c :: (← join rest)
  | escaped c :: rest => return ofEscaped c :: (← join rest)
  | nul :: rest => return '\x00' :: (← join rest)
  | hexadecimal digits :: rest => do
    let c ← charOf (← code digits)
    return c :: (← join rest)
  | unicode digits :: rest => do
    let n ← code digits
    if 0xDC00 ≤ n ∧ n ≤ 0xDFFF then throw "unexpected unicode trailing surrogate"
    if 0xD800 ≤ n ∧ n ≤ 0xDBFF then
      match rest with
      | [] => throw "missing unicode trailing surrogate"
      | second :: rest =>
        let m ← code second.written
        if m < 0xDC00 ∨ 0xDFFF < m then throw "expecting unicode trailing surrogate"
        let c ← charOf (0x10000 + (n - 0xD800) * 0x400 + (m - 0xDC00))
        return c :: (← join rest)
    else
      let c ← charOf n
      return c :: (← join rest)

end Piece

/-! ### Numbers -/

namespace Number

def isHexadecimal (s : Text) : Bool :=
  match s with
  | '0' :: mark :: _ :: _ => mark == 'x' || mark == 'X'
  | _ => false

def special? (s : Text) : Option Double :=
  match String.ofList s with
  | "Infinity" => some Double.infinity
  | "-Infinity" => some Double.infinity.negate
  | "NaN" | "-NaN" => some Double.notANumber
  | _ => none

def isInteger (s : Text) : Bool :=
  !s.contains '.' && (isHexadecimal s || !(s.contains 'e' || s.contains 'E')) &&
    (special? s).isNone

def integer (s : Text) : Except String ConfigValue :=
  if isHexadecimal s then
    (Piece.code (s.drop 2)).map fun n => .integer n
  else
    match Decimal.readInt? s with
    | some i => .ok (.integer i)
    | none => .error "error parsing integer"

def real (s : Text) : Except String ConfigValue :=
  match special? s, Double.read? s with
  | some x, _ => .ok (.real x)
  | none, some x =>
    if x.isInfinite then .error "error parsing number: too large" else .ok (.real x)
  | none, none => .error "error parsing number"

def ofNumeral (s : Text) : Except String ConfigValue :=
  if isInteger s then integer s else real s

end Number

/-! ### Values -/

namespace Value

mutual

/-- The value in a configuration, or what is wrong with the first part that stands for nothing. -/
def toConfig : Value → Except String ConfigValue
  | null => .ok .null
  | flag b => .ok (.flag b)
  | number numeral => Number.ofNumeral numeral
  | text pieces => return .ofText (← Piece.join pieces)
  | list items => return .list (← itemsToConfig items)
  | map entries => return .map (← entriesToConfig [] entries)

def itemsToConfig : List Value → Except String (List ConfigValue)
  | [] => .ok []
  | item :: rest => return (← toConfig item) :: (← itemsToConfig rest)

def entriesToConfig (earlier : List (String × ConfigValue)) :
    List (List Piece × Value) → Except String (List (String × ConfigValue))
  | [] => .ok earlier
  | (key, value) :: rest => do
    let name := String.ofList (← Piece.join key)
    entriesToConfig (ConfigValue.insertEntry name (← toConfig value) earlier) rest

end

end Value

end RelaySnapshot.Json5
