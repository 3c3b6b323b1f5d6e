import RelaySnapshot.ConfigValue
import RelaySnapshot.Text.Decimal
import RelaySnapshot.Text.Hexadecimal

namespace RelaySnapshot.Ini

inductive Bound where
  | endOfKey
  | endOfName
  | quote (c : Char)
  | endOfLine
  deriving DecidableEq, Repr

namespace Bound

/-- Whether a text ends before this character, or at the end of the document. -/
def isMet : Bound → Option Char → Bool
  | endOfKey, c => c == some '=' || c == some ':'
  | endOfName, c => c == some ']'
  | quote q, c => c == some q
  | endOfLine, c => c == some '\n' || c == some '\r' || c == none

def text : Bound → String
  | endOfKey => "[Some('='), Some(':')]"
  | endOfName => "[Some(']')]"
  | quote '\x27' => "[Some('\\'')]"
  | quote q => "[Some('" ++ String.singleton q ++ "')]"
  | endOfLine => "[Some('\\n'), Some('\\r'), None]"

end Bound

inductive Problem where
  | commentInLine
  | missingKey
  | endBefore (bound : Bound)
  | noCharacter
  /-- A backslash among the digits of an escape is not followed by the end of the line. -/
  | strayBackslash (found : Option Char)
  deriving DecidableEq, Repr

def shownCharacter : Char → String
  | '\x27' => "'\\''"
  | '\\' => "'\\\\'"
  | '\r' => "'\\r'"
  | '\t' => "'\\t'"
  | c => "'" ++ String.singleton c ++ "'"

def Problem.message : Problem → String
  | commentInLine => "doesn't support inline comment"
  | missingKey => "missing key"
  | endBefore bound => s!"expecting \"{bound.text}\" but found EOF."
  | noCharacter => "unknown character in \\xHH form"
  | strayBackslash none => "expecting \"\\\\n\" but found \"None\"."
  | strayBackslash (some c) =>
    s!"expecting \"\\\\n\" but found \"Some({shownCharacter c})\"."

/-- Reading stopped at the first character of `rest`. -/
structure Failure where
  problem : Problem
  rest : Text

/-- How many line feeds there are up to the first character of `rest`, with this one. -/
def linesUpTo (source rest : Text) : Nat :=
  (source.take (source.length - rest.length + 1)).count '\n'

/-- How many characters follow the last line feed, up to the first character of `rest`. -/
def columnOf (source rest : Text) : Nat :=
  ((source.take (source.length - rest.length + 1)).reverse.takeWhile (· != '\n')).length

def Failure.report (f : Failure) (source : Text) : String :=
  let line := String.ofList (Decimal.write (linesUpTo source f.rest + 1))
  let column := String.ofList (Decimal.write (columnOf source f.rest + 1))
  s!"{line}:{column} {f.problem.message}"

abbrev Reader := StateT Text (Except Failure)

namespace Reader

variable {α : Type}

def fail (problem : Problem) : Reader α := do
  throw ⟨problem, ← get⟩

def peek : Reader (Option Char) :=
  return (← get).head?

def skip : Reader Unit :=
  modify (·.drop 1)

/-- The next character, which stays, where the document must not end. -/
def present (bound : Bound) : Reader Char := do
  match ← peek with
  | some c => return c
  | none => fail (.endBefore bound)

/-- Reads a digit of an escape; it stays. -/
def escapeDigit (bound : Bound) : Reader Char := do
  skip
  let c ← present bound
  if c = '\\' then
    skip
    let found ← peek
    if found ≠ some '\n' then fail (.strayBackslash found)
  return c

/-- The character whose number is written in hexadecimal digits, perhaps after a plus sign. -/
def characterOf? (digits : Text) : Option Char :=
  let digits := (Text.dropLeading? ['+'] digits).getD digits
  (Hexadecimal.read? digits).bind fun n =>
    if n.isValidChar then some (Char.ofNat n) else none

def escape (bound : Bound) : Reader Text := do
  match ← present bound with
  | '0' => return ['\x00']
  | 'a' => return ['\x07']
  | 'b' => return ['\x08']
  | 't' => return ['\t']
  | 'r' => return ['\r']
  | 'n' => return ['\n']
  | '\n' => return []
  | 'x' =>
    let a ← escapeDigit bound
    let b ← escapeDigit bound
    let c ← escapeDigit bound
    let d ← escapeDigit bound
    match characterOf? [a, b, c, d] with
    | some c => return [c]
    | none => fail .noCharacter
  | c => return [c]

def textTo (bound : Bound) : (room : Nat) → Reader Text
  | 0 => return []
  | room + 1 => do
    if bound.isMet (← peek) then return []
    let c ← present bound
    let part ← if c = '\\' then skip *> escape bound else pure [c]
    skip
    return part ++ (← textTo bound room)

def text (bound : Bound) : Reader Text := do
  textTo bound ((← get).length + 1)

def isLineBreak (c : Char) : Bool :=
  c == '\n' || c == '\r'

/-- Reads the value of a key; what follows a closing quote in its line belongs to it. -/
def value : Reader Text := do
  modify (·.dropWhile fun c => Text.isBlank c && !isLineBreak c)
  match ← peek with
  | none => return []
  | some c =>
    if c = '"' ∨ c = '\x27' then
      skip
      let quoted ← text (.quote c)
      skip
      return quoted ++ Text.trimEnd (← text .endOfLine)
    else return Text.trimEnd (← text .endOfLine)

/-- What has been read: the entries outside of sections, and the sections. -/
structure Draft where
  entries : List (String × ConfigValue) := []
  sections : List (String × List (String × ConfigValue)) := []
  /-- The key whose value is to follow. -/
  key : Text := []

namespace Draft

def withValue (draft : Draft) (value : Text) : Draft :=
  let add := ConfigValue.insertEntry (String.ofList draft.key) (.ofText value)
  match draft.sections.getLast? with
  | none => { draft with entries := add draft.entries, key := [] }
  | some (name, entries) =>
    { draft with sections := draft.sections.dropLast ++ [(name, add entries)], key := [] }

end Draft

def part (source : Text) (draft : Draft) (first : Char) : Reader Draft := do
  match first with
  | ';' | '#' =>
    if 1 < columnOf source (← get) then fail .commentInLine
    modify fun s => (s.dropWhile (· != '\n')).drop 1
    return draft
  | '[' =>
    skip
    let name ← text .endOfName
    skip
    return { draft with
      sections := draft.sections ++ [(String.ofList (Text.trim name), [])] }
  | '=' | ':' =>
    if draft.key.isEmpty then fail .missingKey
    skip
    return draft.withValue (← value)
  | _ =>
    return { draft with key := Text.trim (← text .endOfKey) }

def parts (source : Text) (draft : Draft) : (room : Nat) → Reader Draft
  | 0 => return draft
  | room + 1 => do
    modify (·.dropWhile Text.isBlank)
    match ← peek with
    | none => return draft
    | some c => parts source (← part source draft c) room

end Reader

/-- The values in a document by their names, or the report of what is wrong with it. -/
def read (source : Text) : Except String (List (String × ConfigValue)) :=
  match Reader.parts source {} source.length source with
  | .error f => .error (f.report source)
  | .ok (draft, _) =>
    .ok (draft.sections.foldl (fun entries (name, values) =>
      ConfigValue.insertEntry name (.map values) entries) draft.entries)

end RelaySnapshot.Ini
