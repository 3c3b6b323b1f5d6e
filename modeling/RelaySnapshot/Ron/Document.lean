import RelaySnapshot.Ron.Failure
import RelaySnapshot.Ron.Value
import RelaySnapshot.Text.Hexadecimal
import RelaySnapshot.Text.Utf8

namespace RelaySnapshot.Ron

structure Cursor where
  rest : List UInt8
  line : Nat := 1
  column : Nat := 1

namespace Cursor

def next (cursor : Cursor) : Cursor :=
  match cursor.rest with
  | [] => cursor
  | b :: rest =>
    if b = 0x0A then ⟨rest, cursor.line + 1, 1⟩ else ⟨rest, cursor.line, cursor.column + 1⟩

def advance (cursor : Cursor) : (count : Nat) → Cursor
  | 0 => cursor
  | count + 1 => advance cursor.next count

end Cursor

abbrev Reader := StateT Cursor (Except Failure)

namespace Reader

variable {α : Type}

def fail (problem : Problem) : Reader α := do
  let cursor ← get
  throw ⟨problem, cursor.line, cursor.column⟩

def rest : Reader (List UInt8) :=
  return (← get).rest

def peek : Reader (Option UInt8) :=
  return (← rest).head?

def peekPresent : Reader UInt8 := do
  match ← peek with
  | some b => return b
  | none => fail .endOfDocument

def skip (count : Nat) : Reader Unit :=
  modify (·.advance count)

def next : Reader UInt8 := do
  let b ← peekPresent
  skip 1
  return b

def bytesOf (s : String) : List UInt8 :=
  s.toUTF8.toList

def textOf (bytes : List UInt8) : String :=
  String.ofList (Utf8.decodeLossy bytes)

def isNext (word : String) : Reader Bool :=
  return (bytesOf word).isPrefixOf (← rest)

def took (word : String) : Reader Bool := do
  if ← isNext word then
    skip word.utf8ByteSize
    return true
  return false

/-! ### Blanks and comments -/

def isBlank (b : UInt8) : Bool :=
  b == 0x20 || b == 0x09 || b == 0x0A || b == 0x0D

/-- Passes over the rest of a comment, in which comments are nested. -/
def blockComment : (level room : Nat) → Reader Unit
  | 0, _ => return ()
  | _, 0 => fail .openComment
  | level + 1, room + 1 => do
    if (← rest).isEmpty then fail .openComment
    if ← took "/*" then blockComment (level + 2) room
    else if ← took "*/" then blockComment level room
    else
      skip 1
      blockComment (level + 1) room

def comment : Reader Bool := do
  if !(← took "/") then return false
  let b ← next
  if b = 0x2F then
    skip ((← rest).takeWhile (· != 0x0A)).length
  else if b = 0x2A then
    blockComment 1 ((← rest).length + 1)
  else fail (.strayByte b)
  return true

def blanksIn : (room : Nat) → Reader Unit
  | 0 => return ()
  | room + 1 => do
    skip ((← rest).takeWhile isBlank).length
    if ← comment then blanksIn room

def blanks : Reader Unit := do
  blanksIn ((← rest).length + 1)

def comma : Reader Bool := do
  blanks
  let taken ← took ","
  if taken then blanks
  return taken

/-! ### Identifiers -/

def isLetter (b : UInt8) : Bool :=
  let c := Char.ofNat b.toNat
  c.isAlpha || c == '_'

def isWordByte (b : UInt8) : Bool :=
  isLetter b || (Char.ofNat b.toNat).isDigit

def isRawByte (b : UInt8) : Bool :=
  isWordByte b || b == 0x2E || b == 0x2B || b == 0x2D

def isNextWord (word : String) : Reader Bool := do
  let after := ((← rest).drop word.utf8ByteSize).head?
  return (← isNext word) && !after.any isWordByte

def tookWord (word : String) : Reader Bool := do
  let isThere ← isNextWord word
  if isThere then skip word.utf8ByteSize
  return isThere

/-- How an identifier begins. -/
inductive Start where
  | plain
  | raw
  | none (problem : Problem)

def Start.of : List UInt8 → Start
  | [] => .none .endOfDocument
  | 0x72 :: [] => .none .endOfDocument
  | 0x72 :: 0x22 :: _ => .none .notAnIdentifier
  | 0x72 :: 0x23 :: rest =>
    if rest.head?.any isRawByte then .raw else .none .notAnIdentifier
  | 0x72 :: _ => .plain
  | b :: rest =>
    let long := (b :: rest).takeWhile isRawByte
    if !isLetter b then
      .none (if isRawByte b then .notAPlainIdentifier (textOf long) else .notAnIdentifier)
    else if ((b :: rest).takeWhile isWordByte).length < long.length then
      .none (.notAPlainIdentifier (textOf long))
    else .plain

def identifier : Reader String := do
  match Start.of (← rest) with
  | .none problem => fail problem
  | .plain =>
    let name := (← rest).takeWhile isWordByte
    skip name.length
    return textOf name
  | .raw =>
    skip 2
    let name := (← rest).takeWhile isRawByte
    skip name.length
    return textOf name

def optionalIdentifier : Reader (Option String) := do
  match Start.of (← rest) with
  | .none _ => return none
  | _ => return some (← identifier)

/-! ### Attributes -/

/-- Reads words with blanks after each, and says whether all of them are there. -/
def tookAll : List String → Reader Bool
  | [] => return true
  | word :: more => do
    let taken ← took word
    if taken then blanks
    return (← tookAll more) && taken

def extensionNames : List String :=
  ["unwrap_newtypes", "implicit_some", "unwrap_variant_newtypes"]

/-- Reads the names of extensions, none of which changes what the values of settings are. -/
def extensions : (room : Nat) → Reader Unit
  | 0 => return ()
  | room + 1 => do
    let name ← identifier
    if !extensionNames.contains name then fail (.noExtension name)
    let separated ← comma
    let more := (← peek).any isWordByte
    if !separated && more then fail .noComma
    if separated && more then extensions room

def attributes : (room : Nat) → Reader Unit
  | 0 => return ()
  | room + 1 => do
    blanks
    if (← peek) = some 0x23 then
      if !(← tookAll ["#", "!", "[", "enable", "("]) then fail .noAttribute
      blanks
      extensions (← rest).length
      blanks
      if !(← tookAll [")", "]"]) then fail .noAttributeEnd
      attributes room

/-! ### Numbers -/

def isIntegerByte (b : UInt8) : Bool :=
  (Hexadecimal.digitValue? (Char.ofNat b.toNat)).isSome || b == 0x5F

def isFloatByte (b : UInt8) : Bool :=
  let c := Char.ofNat b.toNat
  c.isDigit || ['.', 'e', 'E', '+', '-', '_'].contains c

def isSignByte (b : UInt8) : Bool :=
  b == 0x2B || b == 0x2D

/-- Whether the number that bytes begin with goes on further as a float than as an integer. -/
def goesOnAsFloat (bytes : List UInt8) : Bool :=
  let bytes := match bytes with
    | b :: more => if isSignByte b then more else b :: more
    | [] => []
  (bytes.takeWhile isIntegerByte).length < (bytes.takeWhile isFloatByte).length

def baseOf : List UInt8 → Nat
  | 0x30 :: 0x78 :: _ => 16
  | 0x30 :: 0x62 :: _ => 2
  | 0x30 :: 0x6F :: _ => 8
  | _ => 10

/-- The number that digits denote, between which there may be underscores. -/
def numberOf? (base : Nat) (digits : List UInt8) : Option Nat := do
  if digits.isEmpty ∨ digits.head? = some 0x5F then none
  let digits ← (digits.filter (· != 0x5F)).mapM fun b =>
    Hexadecimal.digitValue? (Char.ofNat b.toNat)
  if digits.all (·.val < base) then
    some (digits.foldl (fun n d => base * n + d.val) 0)
  else none

/--
Reads an integer of 64 bits, signed or not; one that is too large for a sign is a double. If there
is none, the bytes stay, but their columns count.
-/
def integer : Reader (Option Value) := do
  let before ← get
  let sign := before.rest.head?.filter isSignByte
  if sign.isSome then skip 1
  let base := baseOf (← rest)
  if base ≠ 10 then skip 2
  let digits := (← rest).takeWhile isIntegerByte
  let number := numberOf? base digits
  if digits.head? ≠ some 0x5F then skip digits.length
  let value := number.bind fun n =>
    if sign = some 0x2D then if n ≤ Nat.pow 2 63 then some (Value.integer (-n)) else none
    else if n < Nat.pow 2 63 then some (.integer n)
    else if sign.isNone ∧ n < Nat.pow 2 64 then some (.real (.ofNat n))
    else none
  if value.isNone then modify fun cursor => { cursor with rest := before.rest }
  return value

def specialFloats : List (String × Double) :=
  [("inf", .infinity), ("+inf", .infinity), ("-inf", Double.infinity.negate),
    ("NaN", .notANumber), ("+NaN", .notANumber), ("-NaN", Double.notANumber.negate)]

def takeSpecialFloat : List (String × Double) → Reader (Option Double)
  | [] => return none
  | (word, x) :: more => do
    if ← tookWord word then return some x else takeSpecialFloat more

def float : Reader Value := do
  if let some x ← takeSpecialFloat specialFloats then return .real x
  let numeral := (← rest).takeWhile isFloatByte
  if numeral.contains 0x5F then
    skip (numeral.takeWhile (· != 0x5F)).length
    fail .underscoreInFloat
  skip numeral.length
  match Double.read? (Utf8.decodeLossy numeral) with
  | some x => return .real x
  | none => fail .notAFloat

def number : Reader Value := do
  if goesOnAsFloat (← rest) then float
  else
    match ← integer with
    | some v => return v
    | none => float

/-! ### Texts -/

def hexDigit : Reader Nat := do
  match Hexadecimal.digitValue? (Char.ofNat (← next).toNat) with
  | some digit => return digit.val
  | none => fail (.invalidEscape "Non-hex digit found")

/-- Reads at most `room` hexadecimal digits before a brace, and returns how many they were. -/
def hexDigits (n : Nat) : (room : Nat) → Reader (Nat × Nat)
  | 0 => return (n, 0)
  | room + 1 => do
    if (← peekPresent) = 0x7D then return (n, 0)
    let digit ← hexDigit
    let (n, count) ← hexDigits (16 * n + digit) room
    return (n, count + 1)

def expectByte (b : UInt8) (otherwise : String) : Reader Unit := do
  if (← next) ≠ b then fail (.invalidEscape otherwise)

def escape : Reader Char := do
  match Char.ofNat (← next).toNat with
  | '\x27' => return '\x27'
  | '"' => return '"'
  | '\\' => return '\\'
  | 'n' => return '\n'
  | 'r' => return '\r'
  | 't' => return '\t'
  | '0' => return '\x00'
  | 'x' =>
    let high ← hexDigit
    let low ← hexDigit
    return Char.ofNat (16 * high + low)
  | 'u' =>
    expectByte 0x7B "Missing \x7b in Unicode escape"
    let (n, count) ← hexDigits 0 6
    if count = 0 then
      fail (.invalidEscape "Expected 1-6 digits, got 0 digits in Unicode escape")
    expectByte 0x7D "No \x7d at the end of Unicode escape"
    if !n.isValidChar then fail (.invalidEscape "Not a valid Unicode-escaped character")
    return Char.ofNat n
  | _ => fail (.invalidEscape "Unknown escape character")

def isInText (b : UInt8) : Bool :=
  b != 0x5C && b != 0x22

/-- Reads the rest of a text with escapes; `missing` says what is wrong without its end. -/
def escapedText (missing : Problem) : (room : Nat) → Reader (List UInt8)
  | 0 => fail missing
  | room + 1 => do
    let part := (← rest).takeWhile isInText
    match (← rest).drop part.length with
    | [] => fail missing
    | b :: _ =>
      skip (part.length + 1)
      if b = 0x22 then return part
      let c ← escape
      return part ++ bytesOf (String.singleton c) ++ (← escapedText .endOfDocument room)

def before? (ending : List UInt8) : List UInt8 → Option (List UInt8)
  | [] => if ending.isEmpty then some [] else none
  | b :: rest =>
    if ending.isPrefixOf (b :: rest) then some [] else (before? ending rest).map (b :: ·)

/-- Reads a text without escapes after its mark; as many signs close it as open it. -/
def rawText : Reader (List UInt8) := do
  let hashes := (← rest).takeWhile (· == 0x23)
  skip hashes.length
  if !(← took "\"") then fail .notAString
  match before? (0x22 :: hashes) (← rest) with
  | none => fail .noStringEnd
  | some s =>
    skip (s.length + hashes.length + 1)
    return s

def text : Reader Value := do
  if ← took "\"" then
    return .text (textOf (← escapedText .noStringEnd ((← rest).length + 1)))
  else
    skip 1
    return .text (textOf (← rawText))

def characterOf? (bytes : List UInt8) : Option Char :=
  match Utf8.decode? bytes with
  | some [c] => some c
  | _ => none

def character : Reader Value := do
  skip 1
  let c ← if (← peekPresent) = 0x5C then skip 1 *> escape
    else do
      let bytes := ((← rest).take 5).takeWhile (· != 0x27)
      if bytes.length = min 5 (← rest).length then fail .notACharacter
      match characterOf? bytes with
      | none => fail .notACharacter
      | some c =>
        skip bytes.length
        pure c
  if !(← took "'") then fail .notACharacter
  return .character c

/-! ### Values -/

def hasItem (closing : UInt8) (separated : Bool) : Reader Bool := do
  blanks
  let isThere := (← peekPresent) ≠ closing
  if !separated && isThere then fail .noComma
  return isThere

/-- Reads items with commas between them up to the closing byte, which stays. -/
def itemsTo (closing : UInt8) (item : Reader α) (separated : Bool) :
    (room : Nat) → Reader (List α)
  | 0 => return []
  | room + 1 => do
    if ← hasItem closing separated then
      let a ← item
      let separated ← comma
      return a :: (← itemsTo closing item separated room)
    return []

def items (closing : UInt8) (item : Reader α) : Reader (List α) := do
  itemsTo closing item true ((← rest).length + 1)

def entry (key value : Reader Value) : Reader (Value × Value) := do
  let k ← key
  blanks
  if !(← took ":") then fail .noColon
  blanks
  let v ← value
  blanks
  return (k, v)

def hasFields : Reader Bool := do
  let before ← get
  skip 1
  blanks
  let isField ← match ← optionalIdentifier with
    | none => pure false
    | some _ => do
      blanks
      pure ((← next) = 0x3A)
  set before
  return isField

structure Nested where
  /-- Is done when something is entered. -/
  enter : Reader Unit
  /-- Reads what may be missing. -/
  inner : Reader Value
  /-- Is done before the name of a field is read. -/
  enterField : Reader Unit
  /-- Reads an item, a key, or the value of a key. -/
  item : Reader Value

namespace Nested

def parenthesized (nested : Nested) : Reader Value := do
  let named ← hasFields
  skip 1
  nested.enter
  let v ← if named then
      let key : Reader Value := do
        nested.enterField
        return .text (← identifier)
      pure (Value.map (← items 0x29 (entry key nested.item)))
    else pure (Value.list (← items 0x29 nested.item))
  let _ ← if named then comma else blanks *> pure false
  if !(← took ")") then fail .noStructEnd
  return v

/-- Reads what a value begins with that has no name: parentheses, or nothing. -/
def unnamed (nested : Nested) : Reader Value := do
  if (← peek) = some 0x28 then nested.parenthesized else return .unit

def option (nested : Nested) : Reader Value := do
  skip 4
  blanks
  if !(← took "(") then fail .noOption
  blanks
  nested.enter
  let v ← nested.inner
  let _ ← comma
  if !(← took ")") then fail .noStructEnd
  return .present v

def list (nested : Nested) : Reader Value := do
  skip 1
  nested.enter
  let items ← items 0x5D nested.item
  blanks
  if !(← took "]") then fail .noListEnd
  return .list items

def map (nested : Nested) : Reader Value := do
  skip 1
  nested.enter
  let entries ← items 0x7D (entry nested.item nested.item)
  blanks
  if !(← took "\x7d") then fail .noMapEnd
  return .map entries

def value (nested : Nested) : Reader Value := do
  if ← tookWord "true" then return .flag true
  if ← tookWord "false" then return .flag false
  if ← isNextWord "Some" then return ← nested.option
  if ← tookWord "None" then return .absent
  if ← took "()" then return .unit
  if ← tookWord "inf" then return .real Double.infinity
  if ← tookWord "-inf" then return .real Double.infinity.negate
  if ← tookWord "NaN" then return .real Double.notANumber
  if (← optionalIdentifier).isSome then
    blanks
    return ← nested.unnamed
  let b ← peekPresent
  match Char.ofNat b.toNat with
  | '(' => nested.unnamed
  | '[' => nested.list
  | '\x7b' => nested.map
  | '.' => float
  | '"' | 'r' => text
  | '\x27' => character
  | c => if c.isDigit || isSignByte b then number else fail (.strayByte b)

end Nested

/-- Reads a value that is nested in no more than a number of others. -/
def value : (depth : Nat) → Reader Value
  | 0 => Nested.value ⟨fail .tooDeep, fail .tooDeep, fail .tooDeep, fail .tooDeep⟩
  | 1 => Nested.value ⟨return (), value 0, fail .tooDeep, fail .tooDeep⟩
  | depth + 2 => Nested.value ⟨return (), value (depth + 1), return (), value depth⟩

def document : Reader Value := do
  blanks
  attributes (← rest).length
  let v ← value 128
  blanks
  if !(← rest).isEmpty then fail .trailingCharacters
  return v

end Reader

/-- The value that a document is, or the report of what is wrong with it. -/
def read (source : Text) : Except String ConfigValue :=
  match Reader.document { rest := (String.ofList source).toUTF8.toList } with
  | .ok (v, _) => v.toConfig
  | .error f => .error f.report

end RelaySnapshot.Ron
