import RelaySnapshot.Yaml.Scalar
import RelaySnapshot.Yaml.Tag

/-!
# Layout

The tokens of a document. A list or a map in a block begins where a line is indented further than
what surrounds it, and ends where one is indented less. A value may turn out to be a key only when a
colon follows it; until then it is a candidate, and its token is held back.
-/

namespace RelaySnapshot.Yaml

structure Candidate where
  isPossible : Bool := false
  /-- Whether it has to be a key. -/
  isRequired : Bool := false
  /-- How many tokens precede it in the document. -/
  number : Nat := 0
  mark : Mark := {}

structure Layout where
  cursor : Cursor
  /-- The tokens that have not been handed on. -/
  pending : List Token := []
  /-- How many have been handed on. -/
  handedOn : Nat := 0
  /-- Whether a key may begin here. -/
  allowsKey : Bool := true
  /-- The candidates of this level of brackets and of those around it, the innermost first. -/
  candidates : List Candidate := [{}]
  /-- How far the block is indented, and how far those around it are. -/
  indent : Int := -1
  outerIndents : List Int := []
  /-- How many brackets are open. -/
  flowLevel : Nat := 0
  /-- Where a colon may follow a quoted value without a blank. -/
  adjacentColon : Nat := 0

namespace Layout

abbrev Step := StateT Layout (Except Failure)

variable {α : Type}

def mark : Step Mark :=
  return (← get).cursor.mark

def fail (problem : Problem) : Step α := do
  throw ⟨problem, ← mark⟩

def peek : Step Char :=
  return (← get).cursor.peek

def peekAt (ahead : Nat) : Step Char :=
  return (← get).cursor.peekAt ahead

def reading (r : Reader α) : Step α := do
  let layout ← get
  let (a, cursor) ← (r layout.cursor : Except Failure (α × Cursor))
  set { layout with cursor }
  return a

def skip (count : Nat) : Step Unit :=
  reading (Reader.skip count)

def allowKey (isAllowed : Bool) : Step Unit :=
  modify fun layout => { layout with allowsKey := isAllowed }

def isInFlow : Step Bool :=
  return 0 < (← get).flowLevel

def push (mark : Mark) (kind : TokenKind) : Step Unit :=
  modify fun layout => { layout with pending := layout.pending ++ [⟨mark, kind⟩] }

def insert (number : Nat) (mark : Mark) (kind : TokenKind) : Step Unit :=
  modify fun layout =>
    let place := number - layout.handedOn
    { layout with
      pending := layout.pending.take place ++ ⟨mark, kind⟩ :: layout.pending.drop place }

/-! ### Indentation -/

/-- Begins a block at a column, if that is further in than the current one. -/
def openBlock (column : Nat) (number : Option Nat) (kind : TokenKind) (mark : Mark) :
    Step Unit := do
  let layout ← get
  if layout.flowLevel = 0 ∧ layout.indent < column then
    set { layout with indent := column, outerIndents := layout.indent :: layout.outerIndents }
    match number with
    | some number => insert number mark kind
    | none => push mark kind

def closeBlocks (column : Int) : (room : Nat) → Step Unit
  | 0 => return ()
  | room + 1 => do
    let layout ← get
    match layout.outerIndents with
    | [] => return ()
    | outer :: outerIndents =>
      if layout.flowLevel = 0 ∧ column < layout.indent then
        set { layout with indent := outer, outerIndents }
        push layout.cursor.mark .blockEnd
        closeBlocks column room

def closeBlocksTo (column : Int) : Step Unit := do
  closeBlocks column (← get).outerIndents.length

/-! ### Candidates -/

def Candidate.isStale (mark : Mark) (candidate : Candidate) : Bool :=
  candidate.isPossible &&
    (candidate.mark.line < mark.line || candidate.mark.index + 1024 < mark.index)

def dropStale : Step Unit := do
  let layout ← get
  let isStale := Candidate.isStale layout.cursor.mark
  let isLost (c : Candidate) := isStale c && c.isRequired
  if layout.candidates.any isLost then fail .keyWithoutColon
  let kept (c : Candidate) := { c with isPossible := c.isPossible && !isStale c }
  set { layout with candidates := layout.candidates.map kept }

def currentCandidate : Step Candidate :=
  return (← get).candidates.headD {}

def setCandidate (candidate : Candidate) : Step Unit :=
  modify fun layout => { layout with candidates := candidate :: layout.candidates.drop 1 }

def dropCandidate : Step Unit := do
  let candidate ← currentCandidate
  if candidate.isPossible && candidate.isRequired then fail .keyExpected
  setCandidate { candidate with isPossible := false }

/-- Makes what follows the candidate of this level, if a key may begin here. -/
def saveCandidate : Step Unit := do
  let layout ← get
  let mark := layout.cursor.mark
  if layout.allowsKey then
    dropCandidate
    setCandidate {
      isPossible := true
      isRequired := 0 < layout.flowLevel && layout.indent == mark.column
      number := layout.handedOn + layout.pending.length
      mark }

/-! ### Tokens -/

def skipToToken : (room : Nat) → Step Unit
  | 0 => return ()
  | room + 1 => do
    let layout ← get
    match layout.cursor.peek with
    | ' ' =>
      skip 1
      skipToToken room
    | '\t' =>
      if 0 < layout.flowLevel || !layout.allowsKey then
        skip 1
        skipToToken room
    | '#' =>
      reading Reader.skipLine
      skipToToken room
    | c =>
      if isBreak c then
        let _ ← reading Reader.lineEnd
        if layout.flowLevel = 0 then allowKey true
        skipToToken room

/-- Ends the document; the end counts as the beginning of a line. -/
def streamEnd : Step Unit := do
  let layout ← get
  let mark := layout.cursor.mark
  if mark.column ≠ 0 then
    set { layout with cursor := { layout.cursor with
      mark := { mark with line := mark.line + 1, column := 0 } } }
  closeBlocksTo (-1)
  dropCandidate
  allowKey false
  push (← Layout.mark) .streamEnd

/-- Ends all blocks before a directive or a mark between documents. -/
def endDocument : Step Unit := do
  closeBlocksTo (-1)
  dropCandidate
  allowKey false

def directive : Step Unit := do
  endDocument
  let start ← mark
  reading Reader.directive
  push start .directive

def documentMark (kind : TokenKind) : Step Unit := do
  endDocument
  let start ← mark
  skip 3
  push start kind

def single (kind : TokenKind) : Step Unit := do
  let start ← mark
  skip 1
  push start kind

def flowStart (kind : TokenKind) : Step Unit := do
  saveCandidate
  let layout ← get
  if layout.flowLevel = 255 then fail .tooDeep
  set { layout with
    candidates := {} :: layout.candidates
    flowLevel := layout.flowLevel + 1
    allowsKey := true }
  single kind

def flowEnd (kind : TokenKind) : Step Unit := do
  dropCandidate
  modify fun layout =>
    if layout.flowLevel = 0 then layout
    else { layout with
      candidates := layout.candidates.drop 1
      flowLevel := layout.flowLevel - 1 }
  allowKey false
  single kind

def flowEntry : Step Unit := do
  dropCandidate
  allowKey true
  single .flowEntry

def blockEntry : Step Unit := do
  if ← isInFlow then fail .entryInFlow
  if !(← get).allowsKey then fail .entryNotAllowed
  let start ← mark
  openBlock start.column none .blockListStart start
  dropCandidate
  allowKey true
  single .blockEntry

def key : Step Unit := do
  let inFlow ← isInFlow
  let start ← mark
  if !inFlow then
    if !(← get).allowsKey then fail .keyNotAllowed
    openBlock start.column none .blockMapStart start
  dropCandidate
  allowKey !inFlow
  single .key

/-- Takes the mark of a value. If there is a candidate, it becomes the key. -/
def value : Step Unit := do
  let candidate ← currentCandidate
  let start ← mark
  if candidate.isPossible then
    insert candidate.number candidate.mark .key
    openBlock candidate.mark.column (some candidate.number) .blockMapStart start
    setCandidate { candidate with isPossible := false }
    allowKey false
  else
    let inFlow ← isInFlow
    if !inFlow then
      if !(← get).allowsKey then fail .valueNotAllowed
      openBlock start.column none .blockMapStart start
    allowKey !inFlow
  single .value

/-- Takes what precedes a value or stands for one: an alias, an anchor, or a tag. -/
def property (r : Reader TokenKind) : Step Unit := do
  saveCandidate
  allowKey false
  let start ← mark
  push start (← reading r)

def quotedScalar : Step Unit := do
  saveCandidate
  allowKey false
  let start ← mark
  let text ← reading Reader.quoted
  modify fun layout => { layout with adjacentColon := layout.cursor.mark.index }
  push start (.scalar .quoted text)

def blockScalar : Step Unit := do
  saveCandidate
  allowKey true
  let (start, text) ← reading (Reader.block (← get).indent)
  push start (.scalar .block text)

def plainScalar : Step Unit := do
  saveCandidate
  allowKey false
  let start ← mark
  let indent := ((← get).indent + 1).toNat
  let (text, isBroken) ← reading (Reader.plain (← isInFlow) indent)
  if isBroken then allowKey true
  push start (.scalar .plain text)

/-- Whether a colon is the mark of a value, given the character after it. -/
def isValueMark (after : Char) : Step Bool := do
  let layout ← get
  return isUnseen after || (0 < layout.flowLevel &&
    (isFlowMark after || layout.cursor.mark.index == layout.adjacentColon))

/-- Takes what begins with a character that does not begin a directive or a document. -/
def content (c after : Char) : Step Unit := do
  let inFlow ← isInFlow
  match c with
  | '[' => flowStart .flowListStart
  | '{' => flowStart .flowMapStart
  | ']' => flowEnd .flowListEnd
  | '}' => flowEnd .flowMapEnd
  | ',' => flowEntry
  | '-' => if isUnseen after then blockEntry else plainScalar
  | '?' => if isUnseen after then key else plainScalar
  | ':' => if ← isValueMark after then value else plainScalar
  | '*' => property (.alias <$> Reader.anchorName)
  | '&' => property (.anchor <$> Reader.anchorName)
  | '!' => property (.tag <$> Reader.tag)
  | '\x27' | '"' => quotedScalar
  | '|' | '>' => if inFlow then plainScalar else blockScalar
  | '%' | '@' => fail (.strayCharacter c)
  | _ => if c.toNat = 0x60 then fail (.strayCharacter c) else plainScalar

def advance : Step Unit := do
  skipToToken ((← get).cursor.rest.length + 1)
  dropStale
  let start ← mark
  closeBlocksTo start.column
  let c ← peek
  if isEnd c then streamEnd
  else if start.column = 0 ∧ c = '%' then directive
  else if ← reading Reader.isAtDocumentMark then
    documentMark (if c = '-' then .documentStart else .documentEnd)
  else content c (← peekAt 1)

/-- Whether the next token can be handed on: no token can be inserted before it any more. -/
def isReady : Step Bool := do
  let layout ← get
  return !layout.pending.isEmpty &&
    !layout.candidates.any fun c => c.isPossible && c.number == layout.handedOn

def prepare : (room : Nat) → Step Unit
  | 0 => return ()
  | room + 1 => do
    if !(← get).pending.isEmpty then dropStale
    if !(← isReady) then
      advance
      prepare room

def nextToken : Step Token := do
  prepare ((← get).cursor.rest.length + 3)
  let layout ← get
  match layout.pending with
  | [] => fail .endOfTokens
  | token :: pending =>
    set { layout with pending, handedOn := layout.handedOn + 1 }
    return token

end Layout

/-- The tokens of a document as far as it can be read, and what is wrong if they are not enough. -/
structure Tokens where
  list : List Token
  failure : Failure

namespace Tokens

def collect (layout : Layout) : (room : Nat) → Tokens
  | 0 => ⟨[], ⟨.endOfTokens, layout.cursor.mark⟩⟩
  | room + 1 =>
    match Layout.nextToken layout with
    | .error failure => ⟨[], failure⟩
    | .ok (token, layout) =>
      if token.kind = .streamEnd then ⟨[token], ⟨.endOfTokens, layout.cursor.mark⟩⟩
      else
        let more := collect layout room
        ⟨token :: more.list, more.failure⟩

/-- The tokens of a document; each character belongs to a few of them at most. -/
def ofSource (source : Text) : Tokens :=
  collect { cursor := { rest := source } } (8 * source.length + 8)

end Tokens

end RelaySnapshot.Yaml
