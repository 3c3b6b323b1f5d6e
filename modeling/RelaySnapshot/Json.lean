import RelaySnapshot.ConfigValue
import RelaySnapshot.Text.Decimal
import RelaySnapshot.Text.Hexadecimal
import RelaySnapshot.Text.Utf8

namespace RelaySnapshot.Json

inductive Problem where
  | endInValue
  | endInList
  | endInObject
  | endInString
  | notAValue
  | notAWord
  | noColon
  | noCommaInList
  | noCommaInObject
  | commaAtEnd
  | keyNotAString
  | invalidEscape
  | loneSurrogate
  | noSecondSurrogate
  | controlCharacter
  | invalidNumber
  | numberOutOfRange
  | trailingCharacters
  | tooDeep
  deriving DecidableEq, Repr

namespace Problem

def message : Problem → String
  | endInValue => "EOF while parsing a value"
  | endInList => "EOF while parsing a list"
  | endInObject => "EOF while parsing an object"
  | endInString => "EOF while parsing a string"
  | notAValue => "expected value"
  | notAWord => "expected ident"
  | noColon => "expected `:`"
  | noCommaInList => "expected `,` or `]`"
  | noCommaInObject => "expected `,` or `\x7d`"
  | commaAtEnd => "trailing comma"
  | keyNotAString => "key must be a string"
  | invalidEscape => "invalid escape"
  | loneSurrogate => "lone leading surrogate in hex escape"
  | noSecondSurrogate => "unexpected end of hex escape"
  | controlCharacter => "control character (\\u0000-\\u001F) found while parsing a string"
  | invalidNumber => "invalid number"
  | numberOutOfRange => "number out of range"
  | trailingCharacters => "trailing characters"
  | tooDeep => "recursion limit exceeded"

end Problem

/-- Where reading stopped: before `rest`, or behind its first byte, and why. -/
structure Failure where
  problem : Problem
  rest : List UInt8

abbrev Reader := StateT (List UInt8) (Except Failure)

namespace Reader

variable {α : Type}

def fail (problem : Problem) : Reader α := do
  throw ⟨problem, ← get⟩

/-- Fails at the next byte, which still belongs to what was read. -/
def failAhead (problem : Problem) : Reader α := do
  throw ⟨problem, (← get).drop 1⟩

def byte (c : Char) : UInt8 :=
  .ofNat c.toNat

def isDigit (b : UInt8) : Bool :=
  byte '0' ≤ b && b ≤ byte '9'

def isBlank (b : UInt8) : Bool :=
  b == 0x20 || b == 0x0A || b == 0x09 || b == 0x0D

def peek : Reader (Option UInt8) :=
  return (← get).head?

def skip : Reader Unit :=
  modify (·.drop 1)

def next : Reader (Option UInt8) := do
  let b ← peek
  skip
  return b

/-- Passes over blanks, and returns the byte after them, which stays. -/
def peekAfterBlanks : Reader (Option UInt8) := do
  modify (·.dropWhile isBlank)
  peek

def isNext (characters : String) : Reader Bool :=
  return (← peek).any fun b => characters.toList.any (byte · == b)

/-! ### Words and numbers -/

def letters : List Char → Reader Unit
  | [] => return ()
  | c :: rest => do
    match ← next with
    | none => fail .endInValue
    | some b => if b = byte c then letters rest else fail .notAWord

/-- A number that digits have been read for, and how many they were. -/
structure Digits where
  value : Nat
  count : Nat := 0

/-- Adds digits to a number as long as it has 64 bits. -/
def Digits.extend (digits : Digits) : List UInt8 → Digits × List UInt8
  | [] => (digits, [])
  | b :: rest =>
    let value := 10 * digits.value + (b.toNat - 48)
    if isDigit b && value < Nat.pow 2 64 then Digits.extend ⟨value, digits.count + 1⟩ rest
    else (digits, b :: rest)

def skipDigits : Reader Nat :=
  modifyGet fun s => ((s.takeWhile isDigit).length, s.dropWhile isDigit)

def powerOfTen (n : Nat) : Double :=
  .ofDecimal 1 n

/--
The number `significand · 10 ^ exponent`, in steps that round each: a product or quotient with a
power of ten, after quotients with the greatest one if the exponent is beyond it. There is none if
it is too large.
-/
def scaled (significand : Double) (exponent : Int) : (steps : Nat) → Option Double
  | 0 => some .zero
  | steps + 1 =>
    if exponent.natAbs ≤ 308 then
      if 0 ≤ exponent then
        let x := significand.times (powerOfTen exponent.toNat)
        if x.isInfinite then none else some x
      else some (significand.dividedBy (powerOfTen exponent.natAbs))
    else if significand.isZero then some .zero
    else if 0 ≤ exponent then none
    else scaled (significand.dividedBy (powerOfTen 308)) (exponent + 308) steps

/-- The double made of a sign, a significand of 64 bits and an exponent of ten. -/
def real (isNegative : Bool) (significand : Nat) (exponent : Int) : Reader ConfigValue := do
  match scaled (.ofNat significand) exponent 4 with
  | some x => return .real (if isNegative then x.negate else x)
  | none => fail .numberOutOfRange

/-- Reads further digits of an exponent, which has 32 bits if it matters. -/
def exponentDigits (isNegative : Bool) (significand : Nat) (start : Int) (isBelow : Bool)
    (exponent : Nat) : (room : Nat) → Reader ConfigValue
  | 0 => fail .invalidNumber
  | room + 1 => do
    match ← peek with
    | some b =>
      if isDigit b then
        skip
        let exponent := 10 * exponent + (b.toNat - 48)
        if exponent < Nat.pow 2 31 then
          exponentDigits isNegative significand start isBelow exponent room
        else if significand ≠ 0 ∧ !isBelow then fail .numberOutOfRange
        else
          let _ ← skipDigits
          real isNegative 0 0
      else ended
    | none => ended
where
  ended : Reader ConfigValue :=
    real isNegative significand (if isBelow then start - exponent else start + exponent)

def exponent (isNegative : Bool) (significand : Nat) (start : Int) : Reader ConfigValue := do
  skip
  let isBelow ← isNext "-"
  if ← isNext "+-" then skip
  match ← next with
  | none => fail .endInValue
  | some b =>
    if isDigit b then
      exponentDigits isNegative significand start isBelow (b.toNat - 48) ((← get).length + 1)
    else fail .invalidNumber

/-- Reads the places after the point; those beyond 64 bits do not count. -/
def places (isNegative : Bool) (significand : Nat) (start : Int) : Reader ConfigValue := do
  skip
  let digits ← modifyGet (Digits.extend ⟨significand, 0⟩)
  let more ← skipDigits
  if digits.count = 0 ∧ more = 0 then
    failAhead (if (← peek).isSome then .invalidNumber else .endInValue)
  let start := start - digits.count
  if ← isNext "eE" then exponent isNegative digits.value start
  else real isNegative digits.value start

/-- The value of an integer: one of 64 bits with a sign, or else the nearest double. -/
def integerOf (isNegative : Bool) (n : Nat) : ConfigValue :=
  if !isNegative then if n < Nat.pow 2 63 then .integer n else .real (.ofNat n)
  else if 0 < n ∧ n ≤ Nat.pow 2 63 then .integer (-n)
  else .real (Double.ofNat n).negate

def number (isNegative : Bool) : Reader ConfigValue := do
  match ← next with
  | none => fail .endInValue
  | some first =>
    if !isDigit first then fail .invalidNumber
    if first = byte '0' ∧ (← peek).any isDigit then failAhead .invalidNumber
    let digits ← modifyGet (Digits.extend ⟨first.toNat - 48, 1⟩)
    let more ← skipDigits
    if ← isNext "." then places isNegative digits.value more
    else if ← isNext "eE" then exponent isNegative digits.value more
    else if more = 0 then return integerOf isNegative digits.value
    else real isNegative digits.value more

/-! ### Strings -/

def hexadecimal : Reader Nat := do
  match ← get with
  | a :: b :: c :: d :: rest =>
    set rest
    match Hexadecimal.read? ([a, b, c, d].map fun b => Char.ofNat b.toNat) with
    | some n => return n
    | none => fail .invalidEscape
  | _ =>
    set ([] : List UInt8)
    fail .endInString

def surrogateMark (c : Char) : Reader Unit := do
  match ← next with
  | none => fail .endInString
  | some b => if b = byte c then return () else fail .noSecondSurrogate

/-- Reads the character whose number, or the first half of it, is written after `\u`. -/
def numbered : Reader Char := do
  let first ← hexadecimal
  if 0xDC00 ≤ first ∧ first ≤ 0xDFFF then fail .loneSurrogate
  if 0xD800 ≤ first ∧ first ≤ 0xDBFF then
    surrogateMark '\\'
    surrogateMark 'u'
    let second ← hexadecimal
    if second < 0xDC00 ∨ 0xDFFF < second then fail .loneSurrogate
    return Char.ofNat (0x10000 + (first - 0xD800) * 0x400 + (second - 0xDC00))
  return Char.ofNat first

def escape : Reader Char := do
  match (← next).map fun b => Char.ofNat b.toNat with
  | none => fail .endInString
  | some '"' => return '"'
  | some '\\' => return '\\'
  | some '/' => return '/'
  | some 'b' => return '\x08'
  | some 'f' => return '\x0c'
  | some 'n' => return '\n'
  | some 'r' => return '\r'
  | some 't' => return '\t'
  | some 'u' => numbered
  | some _ => fail .invalidEscape

def stringBytes : (room : Nat) → Reader (List UInt8)
  | 0 => fail .endInString
  | room + 1 => do
    match ← next with
    | none => fail .endInString
    | some b =>
      if b = byte '"' then return []
      else if b = byte '\\' then
        let c ← escape
        return (String.singleton c).toUTF8.toList ++ (← stringBytes room)
      else if b < 0x20 then fail .controlCharacter
      else return b :: (← stringBytes room)

def string : Reader String := do
  let bytes ← stringBytes ((← get).length + 1)
  return String.ofList (Utf8.decodeLossy bytes)

/-! ### Values -/

def items (value : Reader ConfigValue) (isFirst : Bool) : (room : Nat) → Reader (List ConfigValue)
  | 0 => fail .endInList
  | room + 1 => do
    match ← peekAfterBlanks with
    | none => failAhead .endInList
    | some b =>
      if b = byte ']' then
        skip
        return []
      if !isFirst then
        if b ≠ byte ',' then failAhead .noCommaInList
        skip
        match ← peekAfterBlanks with
        | none => failAhead .endInValue
        | some b => if b = byte ']' then failAhead .commaAtEnd
      let item ← value
      return item :: (← items value false room)

def colon : Reader Unit := do
  match ← peekAfterBlanks with
  | none => failAhead .endInObject
  | some b => if b = byte ':' then skip else failAhead .noColon

def entries (value : Reader ConfigValue) (isFirst : Bool) :
    (room : Nat) → Reader (List (String × ConfigValue))
  | 0 => fail .endInObject
  | room + 1 => do
    match ← peekAfterBlanks with
    | none => failAhead .endInObject
    | some b =>
      if b = byte '\x7d' then
        skip
        return []
      if !isFirst then
        if b ≠ byte ',' then failAhead .noCommaInObject
        skip
      match ← peekAfterBlanks with
      | none => failAhead .endInValue
      | some b =>
        if b = byte '\x7d' then failAhead .commaAtEnd
        if b ≠ byte '"' then failAhead .keyNotAString
        skip
        let key ← string
        colon
        let v ← value
        return (key, v) :: (← entries value false room)

/-- Reads a value in which others may be nested, given how nested ones are read. -/
def valueWith (nested : (Reader ConfigValue → Reader ConfigValue) → Reader ConfigValue) :
    Reader ConfigValue := do
  match (← peekAfterBlanks).map fun b => Char.ofNat b.toNat with
  | none => failAhead .endInValue
  | some 'n' => skip *> letters ['u', 'l', 'l'] *> return .null
  | some 't' => skip *> letters ['r', 'u', 'e'] *> return .flag true
  | some 'f' => skip *> letters ['a', 'l', 's', 'e'] *> return .flag false
  | some '-' => skip *> number true
  | some '"' => skip *> return .text (← string)
  | some '[' =>
    nested fun value => do
      skip
      return .list (← items value true (← get).length)
  | some '\x7b' =>
    nested fun value => do
      skip
      let entries ← entries value true (← get).length
      return .map (entries.foldl (fun old (key, v) => ConfigValue.insertEntry key v old) [])
  | some c => if c.isDigit then number false else failAhead .notAValue

/-- Reads a value in which values are nested to some depth at most. -/
def value : (depth : Nat) → Reader ConfigValue
  | 0 => valueWith fun _ => failAhead .tooDeep
  | depth + 1 => valueWith fun enclosed => enclosed (value depth)

def document : Reader ConfigValue := do
  let v ← value 127
  if (← peekAfterBlanks).isSome then failAhead .trailingCharacters
  return v

end Reader

def Failure.report (f : Failure) (source : List UInt8) : String :=
  let before := source.take (source.length - f.rest.length)
  let line := String.ofList (Decimal.write (before.count 0x0A + 1))
  let column := String.ofList (Decimal.write (before.reverse.takeWhile (· != 0x0A)).length)
  s!"{f.problem.message} at line {line} column {column}"

/-- The value that a document is, or the report of what is wrong with it. -/
def read (source : Text) : Except String ConfigValue :=
  let bytes := (String.ofList source).toUTF8.toList
  match Reader.document bytes with
  | .ok (v, _) => .ok v
  | .error f => .error (f.report bytes)

end RelaySnapshot.Json
