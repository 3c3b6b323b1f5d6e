import RelaySnapshot.Text.Decimal

/-!
# Readers

A reader takes something off the front of a text, or fails; then another way of reading may be tried
from where it began. All the while, the parts of a document that have been looked for in vain at the
farthest place are kept, because a message about a document that cannot be read names these.
-/

namespace RelaySnapshot.Json5

/-- The parts of a document that messages name, in the order in which they are named. -/
inductive Part where
  | endOfDocument
  | array
  | boolean
  | escapedCharacter
  | character
  | hexadecimalEscape
  | identifier
  | nulEscape
  | null
  | number
  | object
  | string
  | unicodeEscape
  deriving DecidableEq, Repr

namespace Part

def all : List Part :=
  [endOfDocument, array, boolean, escapedCharacter, character, hexadecimalEscape, identifier,
    nulEscape, null, number, object, string, unicodeEscape]

def name : Part → String
  | endOfDocument => "EOI"
  | array => "array"
  | boolean => "boolean"
  | escapedCharacter => "char_escape_sequence"
  | character => "char_literal"
  | hexadecimalEscape => "hex_escape_sequence"
  | identifier => "identifier"
  | nulEscape => "nul_escape_sequence"
  | null => "null"
  | number => "number"
  | object => "object"
  | string => "string"
  | unicodeEscape => "unicode_escape_sequence"

end Part

/-- The farthest place where a part was missing, by the length of what was left, and all such. -/
structure Missing where
  left : Nat
  parts : List Part := []

namespace Missing

def partsAt (missing : Missing) (left : Nat) : List Part :=
  if missing.left = left then missing.parts else []

/--
Notes that a part is missing at a place, where `before` was missing when the part was looked for. It
stands for what was missing at the beginning of it, unless that is one thing.
-/
def note (missing : Missing) (left : Nat) (before : List Part) (part : Part) : Missing :=
  if (missing.partsAt left).length = before.length + 1 then missing
  else if left < missing.left then ⟨left, [part]⟩
  else if left = missing.left then ⟨left, before ++ [part]⟩
  else missing

end Missing

abbrev Reader := StateT Text (OptionT (StateM Missing))

namespace Reader

variable {α : Type}

def part (part : Part) (r : Reader α) : Reader α := fun s => OptionT.mk do
  let before := (← get).partsAt s.length
  let result ← (r s).run
  if result.isNone then modify (·.note s.length before part)
  return result

def one (p : Char → Bool) : Reader Char := do
  match ← getThe Text with
  | c :: rest => if p c then set rest *> return c else failure
  | [] => failure

def word (s : String) : Reader Text := do
  match Text.dropLeading? s.toList (← getThe Text) with
  | some rest => set rest *> return s.toList
  | none => failure

def optional (r : Reader α) : Reader (Option α) :=
  some <$> r <|> pure none

/-- Reads at most `room` times what has to take at least one character. -/
def manyIn (r : Reader α) : (room : Nat) → Reader (List α)
  | 0 => return []
  | room + 1 => do
    match ← optional r with
    | none => return []
    | some a => return a :: (← manyIn r room)

def many (r : Reader α) : Reader (List α) := do
  manyIn r ((← getThe Text).length + 1)

end Reader

/-! ### Messages -/

/-- The line and the column of what follows some text, both counted from one. -/
def position (line column : Nat) : Text → Nat × Nat
  | [] => (line, column)
  | '\n' :: rest => position (line + 1) 1 rest
  | '\x0d' :: '\n' :: rest => position (line + 1) 1 rest
  | _ :: rest => position line (column + 1) rest

/-- A line as messages show it, with signs for its end if reading stopped there. -/
def shownLine (marksEnd : Bool) (line : Text) : Text :=
  line.filterMap fun c =>
    if c = '\n' then if marksEnd then some (Char.ofNat 0x240A) else none
    else if c = '\x0d' then if marksEnd then some (Char.ofNat 0x240D) else none
    else some c

def enumerate : List String → String
  | [] => ""
  | [name] => name
  | [first, second] => s!"{first} or {second}"
  | names =>
    let first := ", ".intercalate names.dropLast
    let last := names.getLastD ""
    s!"{first}, or {last}"

/-- The message that shows the line where something is missing, and says what. -/
def Missing.report (missing : Missing) (source : Text) : String :=
  let before := source.take (source.length - missing.left)
  let after := source.drop before.length
  let (line, column) := position 1 1 before
  let lineBefore := (before.reverse.takeWhile (· != '\n')).reverse
  let lineAfter := after.takeWhile (· != '\n')
  let ending := (after.drop lineAfter.length).take 1
  let marksEnd := after.head? == some '\n' || after.head? == some '\x0d'
  let shown := shownLine marksEnd (lineBefore ++ lineAfter ++ ending)
  let number := String.ofList (Decimal.write line)
  let margin := String.ofList (List.replicate number.length ' ')
  let indent := (shown.take (column - 1)).map fun c => if c = '\t' then '\t' else ' '
  let names := (Part.all.filter missing.parts.contains).map Part.name
  let message := if names.isEmpty then "unknown parsing error" else "expected " ++ enumerate names
  let column := String.ofList (Decimal.write column)
  s!"{margin}--> {number}:{column}\n{margin} |\n{number} | {String.ofList shown}\n" ++
    s!"{margin} | {String.ofList indent}^---\n{margin} |\n{margin} = {message}"

end RelaySnapshot.Json5
