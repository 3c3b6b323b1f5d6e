import RelaySnapshot.Json5.Reader
import RelaySnapshot.Json5.Value
import RelaySnapshot.Text.Letter

namespace RelaySnapshot.Json5

namespace Reader

/-! ### Blanks -/

def isLineEnd (c : Char) : Bool :=
  c == '\n' || c == '\x0d' || c.toNat == 0x2028 || c.toNat == 0x2029

/-- Tabs, ends of lines, spaces of any width, and the mark of an encoding. -/
def isBlank (c : Char) : Bool :=
  (Text.isBlank c && c.toNat != 0x85) || c.toNat == 0xFEFF

def afterComment? : Text → Option Text
  | '*' :: '/' :: rest => some rest
  | _ :: rest => afterComment? rest
  | [] => none

def comment : Reader Unit := do
  match ← getThe Text with
  | '/' :: '*' :: rest =>
    match afterComment? rest with
    | some rest => set rest
    | none => failure
  | '/' :: '/' :: rest => set (rest.dropWhile (!isLineEnd ·))
  | _ => failure

def blanks : Reader Unit := do
  modifyThe Text (·.dropWhile isBlank)
  let _ ← many do
    comment
    modifyThe Text (·.dropWhile isBlank)

def mark (c : Char) : Reader Unit := do
  let _ ← one (· == c)
  blanks

/-! ### Texts -/

def isHexDigit (c : Char) : Bool :=
  (Hexadecimal.digitValue? c).isSome

def hexDigits : (count : Nat) → Reader Text
  | 0 => return []
  | count + 1 => return (← one isHexDigit) :: (← hexDigits count)

def unicodeEscape : Reader Piece := do
  return .unicode (← part .unicodeEscape (hexDigits 4))

def plain : Reader Piece := do
  return .character (← part .character (one fun c => c != '\\' && !isLineEnd c))

/-- Whether a character may follow a backslash without being the mark of a longer escape. -/
def isEscaped (c : Char) : Bool :=
  !(c.isDigit || c == 'x' || c == 'u' || isLineEnd c)

def escape : Reader Piece :=
  (return .escaped (← part .escapedCharacter (one isEscaped))) <|>
  (do
    let _ ← part .nulEscape (one (· == '0'))
    return .nul) <|>
  (do
    let _ ← one (· == 'x')
    return .hexadecimal (← part .hexadecimalEscape (hexDigits 2))) <|>
  (do
    let _ ← one (· == 'u')
    unicodeEscape)

def continuation : Reader Unit := do
  let _ ← one (· == '\\')
  let c ← one isLineEnd
  if c = '\x0d' then
    let _ ← optional (one (· == '\n'))

/-- Reads what may stand in a text in some quotes; the continuation of a line is nothing. -/
def piece (quote : Char) : Reader (Option Piece) :=
  (one (· == '\\') *> some <$> escape) <|>
  (continuation *> pure none) <|>
  (do
    if (← getThe Text).head? = some quote then failure
    some <$> plain)

def quoted (quote : Char) : Reader (List Piece) := do
  let _ ← one (· == quote)
  let pieces ← many (piece quote)
  let _ ← one (· == quote)
  return pieces.filterMap id

def string : Reader (List Piece) :=
  part .string (quoted '"' <|> quoted '\x27')

/-! ### Keys -/

def plainOf (p : Char → Bool) : Reader Piece := do
  if !(← getThe Text).head?.any p then failure
  plain

def identifierStart : Reader Piece :=
  plainOf (fun c => Text.isLetter c || c == '$' || c == '_') <|> word "\\u" *> unicodeEscape

def isFollower (c : Char) : Bool :=
  Text.isLetterFollower c || c.toNat == 0x200C || c.toNat == 0x200D

def identifier : Reader (List Piece) :=
  part .identifier do
    let first ← identifierStart
    return first :: (← many (identifierStart <|> plainOf isFollower))

def key : Reader (List Piece) :=
  identifier <|> string

/-! ### Single values -/

def null : Reader Value :=
  part .null (word "null" *> pure .null)

def boolean : Reader Value :=
  part .boolean (word "true" *> pure (.flag true) <|> word "false" *> pure (.flag false))

def nonempty (p : Char → Bool) : Reader Text := do
  return (← one p) :: (← many (one p))

def orNothing (r : Reader Text) : Reader Text := do
  return (← optional r).getD []

def hexadecimal : Reader Text := do
  let zero ← one (· == '0')
  let mark ← one fun c => c == 'x' || c == 'X'
  return zero :: mark :: (← nonempty isHexDigit)

def whole : Reader Text :=
  word "0" <|> (do
    let first ← one fun c => c.isDigit && c != '0'
    return first :: (← many (one Char.isDigit)))

def exponent : Reader Text := do
  let mark ← one fun c => c == 'e' || c == 'E'
  let sign ← orNothing (word "+" <|> word "-")
  return mark :: sign ++ (← nonempty Char.isDigit)

def decimal : Reader Text :=
  (do
    let whole ← whole
    let point ← one (· == '.')
    let fraction ← many (one Char.isDigit)
    return whole ++ point :: fraction ++ (← orNothing exponent)) <|>
  (do
    let point ← one (· == '.')
    let fraction ← nonempty Char.isDigit
    return point :: fraction ++ (← orNothing exponent)) <|>
  (do
    let whole ← whole
    return whole ++ (← orNothing exponent))

def number : Reader Value :=
  part .number do
    let sign ← orNothing (word "+" <|> word "-")
    let size ← hexadecimal <|> decimal <|> word "Infinity" <|> word "NaN"
    return .number (sign ++ size)

/-! ### Values -/

/-- Reads at least one item; there may be a comma after the last one. -/
def items {α : Type} (item : Reader α) : Reader (List α) := do
  let first ← item
  let rest ← many (blanks *> mark ',' *> item)
  blanks
  let _ ← optional (mark ',')
  return first :: rest

/-- Reads what stands between brackets. -/
def enclosed {α : Type} (opening closing : Char) (item : Reader α) : Reader (List α) :=
  (mark opening *> one (· == closing) *> pure []) <|> (do
    mark opening
    let items ← items item
    let _ ← one (· == closing)
    return items)

def entry (value : Reader Value) : Reader (List Piece × Value) := do
  let name ← key
  blanks
  mark ':'
  return (name, ← value)

def value : (room : Nat) → Reader Value
  | 0 => failure
  | room + 1 =>
    null <|> boolean <|> .text <$> string <|> number <|>
      part .object (.map <$> enclosed '\x7b' '\x7d' (entry (value room))) <|>
      part .array (.list <$> enclosed '[' ']' (value room))

def document : Reader Value := do
  blanks
  let v ← value ((← getThe Text).length + 1)
  blanks
  part .endOfDocument do
    if !(← getThe Text).isEmpty then failure
  return v

end Reader

/-- The value that a document is, or the report of what is wrong with it. -/
def read (source : Text) : Except String ConfigValue :=
  match (Reader.document source).run { left := source.length } with
  | (some (v, _), _) => v.toConfig
  | (none, missing) => .error (missing.report source)

end RelaySnapshot.Json5
