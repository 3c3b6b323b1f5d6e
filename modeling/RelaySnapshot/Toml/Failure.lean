import RelaySnapshot.Text.Decimal
import RelaySnapshot.Text.Quoted

namespace RelaySnapshot.Toml

/-- What is wrong with a part of a document that is well-formed by itself. -/
inductive Fault where
  | outOfRange
  | tooLarge
  | tooSmall
  | tooDeep
  /-- A key is given twice, in the table at `table` if that is known. -/
  | duplicateKey (key : String) (table : Option (List String))
  /-- A path of keys leads through a value that is no table but of the given kind. -/
  | extendsValue (path : List String) (kind : String)
  deriving DecidableEq, Repr

namespace Fault

def message : Fault → String
  | outOfRange => "value is out of range"
  | tooLarge => "number too large to fit in target type"
  | tooSmall => "number too small to fit in target type"
  | tooDeep => "recursion limit exceeded"
  | duplicateKey key none => s!"duplicate key `{key}`"
  | duplicateKey key (some []) => s!"duplicate key `{key}` in document root"
  | duplicateKey key (some path) =>
    let table := ".".intercalate path
    s!"duplicate key `{key}` in table `{table}`"
  | extendsValue path kind =>
    let key := ".".intercalate path
    s!"dotted key `{key}` attempted to extend non-table type ({kind})"

end Fault

structure Failure where
  /-- What was left of the document. -/
  rest : Text
  /-- Whether no other way of reading can be tried. -/
  isFinal : Bool := false
  /-- What was being read. -/
  label : Option String := none
  /-- What could have stood there. -/
  expected : List String := []
  fault : Option Fault := none

namespace Failure

def message (f : Failure) : String :=
  let label := f.label.toList.map ("invalid " ++ ·)
  let expected := if f.expected.isEmpty then [] else ["expected " ++ ", ".intercalate f.expected]
  "\n".intercalate (label ++ expected ++ f.fault.toList.map Fault.message)

structure Position where
  line : Nat
  column : Nat

/--
Where a part of a document ends that is followed by `rest`. The end of a document belongs to its
last character. A column counts characters, but bytes if a character of several bytes stands there.
-/
def position (before rest : Text) : Position :=
  let (before, past) := match rest, before.reverse with
    | [], _ :: most => (most.reverse, 1)
    | _, _ => (before, 0)
  let line := (before.reverse.takeWhile (· != '\n')).reverse
  let wide := rest.head?.any fun c => decide (0x80 ≤ c.toNat)
  ⟨before.count '\n', (if wide then Text.byteLength line else line.length) + past⟩

/-- How many marks stand below a line: one for each byte of the character where reading failed. -/
def markCount (line : Text) (column : Nat) (rest : Text) : Nat :=
  max 1 (min (Text.byteLength (rest.take 1)) (Text.byteLength line - column))

/-- The text that shows where a document could not be read on, and why. -/
def report (f : Failure) (source : Text) : String :=
  let position := position (source.take (source.length - f.rest.length)) f.rest
  let line := (Text.lines source).getD position.line []
  let number := String.ofList (Decimal.write (position.line + 1))
  let column := String.ofList (Decimal.write (position.column + 1))
  let spaces (n : Nat) := String.ofList (List.replicate n ' ')
  let margin := spaces (number.length + 1)
  let indent := spaces (position.column + 1)
  let marks := String.ofList (List.replicate (markCount line position.column f.rest) '^')
  let shown := String.ofList line
  s!"TOML parse error at line {number}, column {column}\n" ++
    s!"{margin}|\n{number} | {shown}\n{margin}|{indent}{marks}\n{f.message}\n"

end Failure

end RelaySnapshot.Toml
