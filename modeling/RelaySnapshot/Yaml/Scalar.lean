import RelaySnapshot.Yaml.Cursor
import RelaySnapshot.Yaml.Token

namespace RelaySnapshot.Yaml.Reader

/-! ### Gaps -/

structure Gap where
  blanks : Text := []
  /-- Whether a line has ended; blanks do not count from then on. -/
  isBroken : Bool := false
  firstBreak : Text := []
  moreBreaks : Text := []

def Gap.text (gap : Gap) : Text :=
  if !gap.isBroken then gap.blanks
  else if gap.firstBreak.isEmpty then gap.moreBreaks
  else if gap.moreBreaks.isEmpty then [' ']
  else gap.moreBreaks

def Gap.withBreak (gap : Gap) (ending : Text) : Gap :=
  if gap.isBroken then { gap with moreBreaks := gap.moreBreaks ++ ending }
  else { gap with blanks := [], isBroken := true, firstBreak := gap.firstBreak ++ ending }

/-- Reads on in a gap. A new line must not have a tab before the column `indent`. -/
def gapFrom (start : Mark) (indent : Nat) (gap : Gap) : (room : Nat) → Reader Gap
  | 0 => return gap
  | room + 1 => do
    let c ← peek
    if isBlank c then
      if gap.isBroken && (← column) < indent && c == '\t' then failAt start .plainTab
      skip 1
      let gap := if gap.isBroken then gap else { gap with blanks := gap.blanks ++ [c] }
      gapFrom start indent gap room
    else if isBreak c then gapFrom start indent (gap.withBreak (← lineEnd)) room
    else return gap

/-! ### Plain values -/

/-- Whether a plain value ends before its next character, given whether it is between brackets. -/
def isPlainEnd (inFlow : Bool) : Reader Bool := do
  let c ← peek
  let after ← peekAt 1
  return isUnseen c || (c == ':' && (isUnseen after || (inFlow && isFlowMark after))) ||
    (inFlow && isFlowMark c)

def plainWord (inFlow : Bool) : (room : Nat) → Reader Text
  | 0 => return []
  | room + 1 => do
    if ← isPlainEnd inFlow then return []
    let c ← peek
    skip 1
    return c :: (← plainWord inFlow room)

/-- Reads the words of a plain value after a gap; the gap after the last one is returned too. -/
def plainWords (start : Mark) (inFlow : Bool) (indent : Nat) (gap : Gap) :
    (room : Nat) → Reader (Text × Gap)
  | 0 => return ([], gap)
  | room + 1 => do
    if (← isAtDocumentMark) || (← peek) == '#' then return ([], gap)
    let word ← plainWord inFlow (← get).rest.length
    let c ← peek
    let (text, gap) := if word.isEmpty then ([], gap) else (gap.text ++ word, {})
    if !(isBlank c || isBreak c) then return (text, gap)
    let gap ← gapFrom start indent gap (← get).rest.length
    if !inFlow && (← column) < indent then return (text, gap)
    let (more, gap) ← plainWords start inFlow indent gap room
    return (text ++ more, gap)

/-- Reads a plain value, and tells whether a line has ended after it. -/
def plain (inFlow : Bool) (indent : Nat) : Reader (Text × Bool) := do
  let (text, gap) ← plainWords (← mark) inFlow indent {} ((← get).rest.length + 1)
  return (text, gap.isBroken)

/-! ### Quoted values -/

def escaped? : Char → Option Char
  | '0' => some '\x00'
  | 'a' => some '\x07'
  | 'b' => some '\x08'
  | 't' | '\t' => some '\t'
  | 'n' => some '\n'
  | 'v' => some '\x0b'
  | 'f' => some '\x0c'
  | 'r' => some '\x0d'
  | 'e' => some '\x1b'
  | ' ' => some ' '
  | '"' => some '"'
  | '\x27' => some '\x27'
  | '\\' => some '\\'
  | 'N' => some (Char.ofNat 0x85)
  | '_' => some (Char.ofNat 0xA0)
  | 'L' => some (Char.ofNat 0x2028)
  | 'P' => some (Char.ofNat 0x2029)
  | _ => none

def digitCount? : Char → Option Nat
  | 'x' => some 2
  | 'u' => some 4
  | 'U' => some 8
  | _ => none

def escape (start : Mark) : Reader Char := do
  let c ← peekAt 1
  match escaped? c, digitCount? c with
  | some c, _ =>
    skip 2
    return c
  | none, none => failAt start .quotedEscape
  | none, some count =>
    skip 2
    let digits := (← get).rest.take count
    if digits.length < count then failAt start .quotedDigits
    match Hexadecimal.read? digits with
    | none => failAt start .quotedDigits
    | some n =>
      if !n.isValidChar then failAt start .quotedCode
      skip count
      return Char.ofNat n

/--
Reads up to the next gap or the closing quote. An end of a line after a backslash belongs to the
gap, which has begun then.
-/
def quotedWord (start : Mark) (quote : Char) : (room : Nat) → Reader (Text × Bool)
  | 0 => return ([], false)
  | room + 1 => do
    let c ← peek
    let after ← peekAt 1
    if isUnseen c then return ([], false)
    else if c = quote then
      if quote = '\x27' ∧ after = quote then
        skip 2
        let (more, broken) ← quotedWord start quote room
        return (c :: more, broken)
      else return ([], false)
    else if c = '\\' ∧ quote = '"' then
      if isBreak after then
        skip 1
        let _ ← lineEnd
        return ([], true)
      else
        let c ← escape start
        let (more, broken) ← quotedWord start quote room
        return (c :: more, broken)
    else
      skip 1
      let (more, broken) ← quotedWord start quote room
      return (c :: more, broken)

/-- Reads what is left of a value in quotes, without the closing one. -/
def quotedWords (start : Mark) (quote : Char) : (room : Nat) → Reader Text
  | 0 => failAt start .quotedEnd
  | room + 1 => do
    if ← isAtDocumentMark then failAt start .quotedIndicator
    if isEnd (← peek) then failAt start .quotedEnd
    let (word, broken) ← quotedWord start quote (← get).rest.length
    if (← peek) = quote then return word
    let gap ← gapFrom start 0 { isBroken := broken } (← get).rest.length
    return word ++ gap.text ++ (← quotedWords start quote room)

def quoted : Reader Text := do
  let start ← mark
  let quote ← peek
  skip 1
  let text ← quotedWords start quote ((← get).rest.length + 1)
  skip 1
  return text

/-! ### Blocks -/

inductive Chomping where
  | strip
  | clip
  | keep
  deriving DecidableEq, Repr

structure BlockHeader where
  chomping : Chomping := .clip
  /-- How much further the lines are indented, if that is told. -/
  increment : Nat := 0

def chomping? : Reader (Option Chomping) := do
  match ← peek with
  | '+' => skip 1 *> return some .keep
  | '-' => skip 1 *> return some .strip
  | _ => return none

def increment? (start : Mark) : Reader (Option Nat) := do
  let c ← peek
  if !c.isDigit then return none
  if c = '0' then failAt start .blockIndentZero
  skip 1
  return some (c.toNat - 48)

def blockHeader (start : Mark) : Reader BlockHeader := do
  match ← chomping? with
  | some chomping => return ⟨chomping, (← increment? start).getD 0⟩
  | none =>
    match ← increment? start with
    | none => return {}
    | some increment => return ⟨(← chomping?).getD .clip, increment⟩

/--
Reads indentation and empty lines. The lines of a block are indented as far as `indent`, or, if that
is zero, as far as what is read here, but at least as far as `least`.
-/
def blockBreaks (least indent greatest : Nat) : (room : Nat) → Reader (Nat × Text)
  | 0 => return (indent, [])
  | room + 1 => do
    let spaces := (← get).rest.takeWhile (· == ' ')
    let missing := indent - (← column)
    let width := if indent = 0 then spaces.length else min spaces.length missing
    skip width
    let greatest := max greatest (← column)
    if (indent = 0 ∨ (← column) < indent) ∧ (← peek) = '\t' then failAt (← mark) .blockTab
    if isBreak (← peek) then
      let ending ← lineEnd
      let (found, more) ← blockBreaks least indent greatest room
      return (found, ending ++ more)
    return (if indent = 0 then max greatest (max least 1) else indent, [])

structure BlockLines where
  text : Text := []
  /-- The end of the last line. -/
  lastBreak : Text := []
  /-- The ends of the empty lines after it. -/
  moreBreaks : Text := []
  /-- Whether the last line begins with a blank. -/
  isIndented : Bool := false

/-- Adds the text of a line; lines are folded unless they are to be kept as they stand. -/
def BlockLines.add (lines : BlockLines) (isLiteral : Bool) (line : Text) : BlockLines :=
  let begins := line.head?.any isBlank
  let joined :=
    if !isLiteral && !lines.lastBreak.isEmpty && !lines.isIndented && !begins then
      if lines.moreBreaks.isEmpty then [' '] else []
    else lines.lastBreak
  { text := lines.text ++ joined ++ lines.moreBreaks ++ line, isIndented := begins }

def blockLines (isLiteral : Bool) (least indent : Nat) (lines : BlockLines) :
    (room : Nat) → Reader BlockLines
  | 0 => return lines
  | room + 1 => do
    if (← column) ≠ indent || isEnd (← peek) then return lines
    let lines := lines.add isLiteral (← takeWhile (!isBreakOrEnd ·))
    if isEnd (← peek) then return lines
    let lastBreak ← lineEnd
    let (indent, moreBreaks) ← blockBreaks least indent 0 ((← get).rest.length + 1)
    blockLines isLiteral least indent { lines with lastBreak, moreBreaks } room

/-- Reads a block below what is indented as far as `outer`, and returns where its text begins. -/
def block (outer : Int) : Reader (Mark × Text) := do
  let start ← mark
  let isLiteral := (← peek) == '|'
  skip 1
  let header ← blockHeader start
  skipTail start .blockHeaderEnd
  let _ ← lineEnd
  let indent := if header.increment = 0 then 0 else outer.toNat + header.increment
  let least := (outer + 1).toNat
  let room := (← get).rest.length + 1
  let (indent, moreBreaks) ← blockBreaks least indent 0 room
  let start ← mark
  let lines ← blockLines isLiteral least indent { moreBreaks } room
  let ending := match header.chomping with
    | .strip => []
    | .clip => lines.lastBreak
    | .keep => lines.lastBreak ++ lines.moreBreaks
  return (start, lines.text ++ ending)

end RelaySnapshot.Yaml.Reader
