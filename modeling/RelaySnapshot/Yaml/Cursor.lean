import RelaySnapshot.Text.Hexadecimal
import RelaySnapshot.Yaml.Failure

namespace RelaySnapshot.Yaml

structure Cursor where
  rest : Text
  mark : Mark := {}

namespace Cursor

def peekAt (cursor : Cursor) (ahead : Nat) : Char :=
  (cursor.rest.drop ahead).headD '\x00'

def peek (cursor : Cursor) : Char :=
  cursor.peekAt 0

def next (cursor : Cursor) : Cursor :=
  let mark := cursor.mark
  match cursor.rest with
  | [] => ⟨[], { mark with index := mark.index + 1, column := mark.column + 1 }⟩
  | '\n' :: rest => ⟨rest, ⟨mark.index + 1, mark.line + 1, 0⟩⟩
  | _ :: rest => ⟨rest, { mark with index := mark.index + 1, column := mark.column + 1 }⟩

def advance (cursor : Cursor) : (count : Nat) → Cursor
  | 0 => cursor
  | count + 1 => advance cursor.next count

end Cursor

/-! ### Kinds of characters -/

def isEnd (c : Char) : Bool :=
  c == '\x00'

def isBreak (c : Char) : Bool :=
  c == '\n' || c == '\x0d'

def isBlank (c : Char) : Bool :=
  c == ' ' || c == '\t'

def isBreakOrEnd (c : Char) : Bool :=
  isBreak c || isEnd c

def isUnseen (c : Char) : Bool :=
  isBlank c || isBreakOrEnd c

def isWordChar (c : Char) : Bool :=
  c.isAlphanum || c == '_' || c == '-'

def isFlowMark (c : Char) : Bool :=
  c == ',' || c == '[' || c == ']' || c == '{' || c == '}'

def isHexDigit (c : Char) : Bool :=
  (Hexadecimal.digitValue? c).isSome

/-! ### Readers -/

abbrev Reader := StateT Cursor (Except Failure)

namespace Reader

variable {α : Type}

def mark : Reader Mark :=
  return (← get).mark

def column : Reader Nat :=
  return (← mark).column

def failAt (mark : Mark) (problem : Problem) : Reader α :=
  throw ⟨problem, mark⟩

def peek : Reader Char :=
  return (← get).peek

def peekAt (ahead : Nat) : Reader Char :=
  return (← get).peekAt ahead

def skip (count : Nat) : Reader Unit :=
  modify (·.advance count)

def takeWhile (p : Char → Bool) : Reader Text := do
  let taken := (← get).rest.takeWhile p
  skip taken.length
  return taken

def skipBlanks : Reader Unit := do
  let _ ← takeWhile isBlank

def skipLine : Reader Unit := do
  let _ ← takeWhile (!isBreakOrEnd ·)

/-- Passes over blanks and a comment; then a line has to end, which is left. -/
def skipTail (start : Mark) (problem : Problem) : Reader Unit := do
  skipBlanks
  if (← peek) = '#' then skipLine
  if !isBreakOrEnd (← peek) then failAt start problem

def lineEnd : Reader Text := do
  let c ← peek
  if c = '\x0d' ∧ (← peekAt 1) = '\n' then
    skip 2
    return ['\n']
  else if isBreak c then
    skip 1
    return ['\n']
  else return []

/-- Whether a line begins that consists of a mark between documents. -/
def isAtDocumentMark : Reader Bool := do
  let cursor ← get
  let mark := cursor.rest.take 3
  return cursor.mark.column = 0 && (mark == ['-', '-', '-'] || mark == ['.', '.', '.']) &&
    isUnseen (cursor.peekAt 3)

end Reader

end RelaySnapshot.Yaml
