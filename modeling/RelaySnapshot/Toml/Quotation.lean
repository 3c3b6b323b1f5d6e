import RelaySnapshot.Text.Hexadecimal
import RelaySnapshot.Toml.Reader

namespace RelaySnapshot.Toml.Reader

/-- Reads a character that is written as a number of hexadecimal digits. -/
def hexCharacter (count : Nat) : Reader Char := do
  let digits : Reader Text := do
    let rest ← get
    let digits := (rest.take count).takeWhile fun c => (Hexadecimal.digitValue? c).isSome
    if digits.length = count then set (rest.drop count) *> return digits else fail
  converted digits fun digits =>
    match Hexadecimal.read? digits with
    | some n => if n.isValidChar then .ok (Char.ofNat n) else .error (some .outOfRange)
    | none => .error none

/-- Fails because of a character that makes no escape. A wide one is not passed over. -/
def noEscape (c : Char) : Reader Char := fun rest =>
  .error {
    rest := if c.toNat < 0x80 then rest else c :: rest
    isFinal := true
    label := "escape sequence"
    expected := ["`b`", "`f`", "`n`", "`r`", "`t`", "`u`", "`U`", "`\\`", "`\"`"] }

def escape : Reader Char := do
  char '\\'
  match ← one fun _ => true with
  | 'b' => return '\x08'
  | 'f' => return '\x0c'
  | 'n' => return '\n'
  | 'r' => return '\r'
  | 't' => return '\t'
  | 'u' => labelled "unicode 4-digit hex code" (final (hexCharacter 4))
  | 'U' => labelled "unicode 8-digit hex code" (final (hexCharacter 8))
  | '\\' => return '\\'
  | '"' => return '"'
  | c => noEscape c

def isBasic (c : Char) : Bool :=
  isShown c && c != '"' && c != '\\'

def isLiteral (c : Char) : Bool :=
  isShown c && c != '\x27'

def basicString : Reader Text := do
  char '"'
  let parts ← many (either (nonemptyRun isBasic) (return [← escape]))
  labelled "basic string" (final (char '"'))
  return parts.flatten

def literalString : Reader Text :=
  labelled "literal string" do
    char '\x27'
    let s ← run isLiteral
    final (char '\x27')
    return s

/-! ### Several lines -/

def quotesBefore (quote : Char) (follows : Text → Bool) : Reader Text := do
  let quotes (count : Nat) : Reader Text := do
    let quotes := List.replicate count quote
    word (String.ofList quotes)
    if follows (← get) then return quotes else fail
  either (quotes 2) (quotes 1)

def leavesQuotes (quote : Char) (s : Text) : Bool :=
  s.head?.any (· != quote)

def closes (quote : Char) (s : Text) : Bool :=
  Text.startsWith (List.replicate 3 quote) s

/-- Reads the end of a line that a backslash takes out of a string, and the blanks after it. -/
def escapedNewline : Reader Text := do
  char '\\'
  spaces
  newline
  let _ ← many (either newline (do let _ ← nonemptyRun isSpace))
  return []

def lineOfText : Reader Text := do
  newline
  return ['\n']

def basicContent : Reader Text :=
  either (nonemptyRun isBasic) <| either escapedNewline <|
    either (return [← escape]) lineOfText

def literalContent : Reader Text :=
  either (nonemptyRun isLiteral) lineOfText

/--
Reads quotes that do not close a basic string, each time with what follows them. Quotes before
something that does not belong to a string are read as well.
-/
def basicRuns : (room : Nat) → Reader Text
  | 0 => return []
  | room + 1 => do
    match ← optional (quotesBefore '"' (leavesQuotes '"')) with
    | none => return []
    | some quotes =>
      match ← many basicContent with
      | [] => return []
      | parts => return quotes ++ parts.flatten ++ (← basicRuns room)

/-- Reads quotes that do not close a literal string, and what follows them. -/
def literalRun : Reader Text := do
  let quotes ← quotesBefore '\x27' (leavesQuotes '\x27')
  match ← many literalContent with
  | [] => fail
  | parts => return quotes ++ parts.flatten

def longString (label : String) (quote : Char) (content : Reader Text) : Reader Text :=
  labelled label do
    let quotes := String.ofList (List.replicate 3 quote)
    word quotes
    let _ ← optional newline
    final do
      let s ← content
      let last ← optional (quotesBefore quote (closes quote))
      word quotes
      return s ++ last.getD []

def longBasicString : Reader Text :=
  longString "multiline basic string" '"' do
    let start ← many basicContent
    return start.flatten ++ (← basicRuns (← get).length)

def longLiteralString : Reader Text :=
  longString "multiline literal string" '\x27' do
    let start ← many literalContent
    return start.flatten ++ (← many literalRun).flatten

def string : Reader Text :=
  either longBasicString <| either basicString <| either longLiteralString literalString

end RelaySnapshot.Toml.Reader
