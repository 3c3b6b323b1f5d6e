import RelaySnapshot.Yaml.Layout
import RelaySnapshot.Yaml.Node

namespace RelaySnapshot.Yaml

/-- What is left of the tokens, and the values that have been named. -/
structure Reading where
  tokens : Tokens
  /-- The numbers of anchors by name, the latest first. -/
  anchors : List (Text × Nat) := []
  /-- The values that have been read by the number of their anchor. -/
  named : List (Nat × Node) := []
  anchorCount : Nat := 0

namespace Reading

abbrev Step := StateT Reading (Except Failure)

variable {α : Type}

def peek : Step Token := do
  let tokens := (← get).tokens
  match tokens.list with
  | token :: _ => return token
  | [] => throw tokens.failure

def skip : Step Unit :=
  modify fun s => { s with tokens := { s.tokens with list := s.tokens.list.drop 1 } }

def nextKind : Step TokenKind :=
  return (← peek).kind

def took (kind : TokenKind) : Step Bool := do
  if (← nextKind) = kind then
    skip
    return true
  return false

def fail (problem : Problem) : Step α := do
  throw ⟨problem, (← peek).mark⟩

/-- A number that is never less than how often something can still be read. -/
def room : Step Nat :=
  return (← get).tokens.list.length + 1

/-! ### Properties -/

structure Properties where
  anchor : Option Nat := none
  tag : Option Tag := none

def setAnchor (name : Text) : Step Nat := do
  let s ← get
  let number := s.anchorCount + 1
  set { s with anchors := (name, number) :: s.anchors, anchorCount := number }
  return number

def anchor? : Step (Option Nat) := do
  match ← nextKind with
  | .anchor name => skip *> some <$> setAnchor name
  | _ => return none

def tag? : Step (Option Tag) := do
  match ← nextKind with
  | .tag tag => skip *> return some tag
  | _ => return none

def properties : Step Properties := do
  match ← anchor? with
  | some anchor => return ⟨some anchor, ← tag?⟩
  | none =>
    match ← tag? with
    | some tag => return ⟨← anchor?, some tag⟩
    | none => return {}

def setNamed (anchor : Option Nat) (node : Node) : Step Node := do
  if let some number := anchor then
    modify fun s => { s with named := (number, node) :: s.named }
  return node

/-- The value that a name was given to; there is none as long as that value is being read. -/
def aliased (mark : Mark) (name : Text) : Step Node := do
  let s ← get
  match s.anchors.lookup name with
  | none => throw ⟨.unknownAnchor, mark⟩
  | some number => return (s.named.lookup number).getD .missing

/-! ### Collections -/

/-- Where a node stands: whether it may be a block, and a list that is not indented further. -/
structure Position where
  isInBlock : Bool
  isEntryAllowed : Bool

def inFlow : Position := ⟨false, false⟩

abbrev Nested := Position → Step Node

def nodeUnless (kinds : List TokenKind) (position : Position) (nested : Nested) : Step Node := do
  if kinds.contains (← nextKind) then return .null
  nested position

def blockValue (nested : Nested) : Step Node := do
  if ← took .value then nodeUnless [.key, .value, .blockEnd] ⟨true, true⟩ nested
  else return .null

def blockMap (nested : Nested) : (room : Nat) → Step (List Node)
  | 0 => return []
  | room + 1 => do
    if ← took .blockEnd then return []
    let key ← if ← took .key then nodeUnless [.key, .value, .blockEnd] ⟨true, true⟩ nested
      else if (← nextKind) = .value then pure .null
      else fail .noBlockKey
    let value ← blockValue nested
    return key :: value :: (← blockMap nested room)

def blockList (nested : Nested) : (room : Nat) → Step (List Node)
  | 0 => return []
  | room + 1 => do
    if ← took .blockEnd then return []
    if !(← took .blockEntry) then fail .noBlockEntry
    let item ← nodeUnless [.blockEntry, .blockEnd] ⟨true, false⟩ nested
    return item :: (← blockList nested room)

/-- Reads a list whose entries are not indented further than the key before it. -/
def bareList (nested : Nested) : (room : Nat) → Step (List Node)
  | 0 => return []
  | room + 1 => do
    if !(← took .blockEntry) then return []
    let item ← nodeUnless [.blockEntry, .key, .value, .blockEnd] ⟨true, false⟩ nested
    return item :: (← bareList nested room)

/-- Reads the value of a key between brackets, where it ends before one of two kinds of tokens. -/
def flowValue (ending : TokenKind) (nested : Nested) : Step Node := do
  if ← took .value then nodeUnless [.flowEntry, ending] inFlow nested
  else return .null

def flowPair (nested : Nested) : Step Node := do
  let isEmpty := [TokenKind.value, .flowEntry, .flowListEnd].contains (← nextKind)
  let key ← if isEmpty then skip *> pure .null else nested inFlow
  let value ← flowValue .flowListEnd nested
  return .ofTurns [key, value]

def flowList (nested : Nested) (isFirst : Bool) : (room : Nat) → Step (List Node)
  | 0 => return []
  | room + 1 => do
    if ← took .flowListEnd then return []
    if !isFirst then
      if !(← took .flowEntry) then fail .noFlowEntryInList
      if ← took .flowListEnd then return []
    let item ← if ← took .key then flowPair nested else nested inFlow
    return item :: (← flowList nested false room)

def flowEntry (nested : Nested) : Step (List Node) := do
  if ← took .key then
    let key ← nodeUnless [.value, .flowEntry, .flowMapEnd] inFlow nested
    return [key, ← flowValue .flowMapEnd nested]
  else if (← nextKind) = .value then return [.null, ← flowValue .flowMapEnd nested]
  else return [← nested inFlow, .null]

def flowMap (nested : Nested) (isFirst : Bool) : (room : Nat) → Step (List Node)
  | 0 => return []
  | room + 1 => do
    if ← took .flowMapEnd then return []
    if !isFirst then
      if !(← took .flowEntry) then fail .noFlowEntryInMap
      if ← took .flowMapEnd then return []
    let entry ← flowEntry nested
    return entry ++ (← flowMap nested false room)

/-! ### Nodes -/

def content (nested : Nested) (position : Position) (tag : Option Tag) (isNamed : Bool) :
    Step Node := do
  let room ← room
  let missing : Step Node := do
    if tag.isSome || isNamed then return .ofScalar .plain tag []
    fail .noNode
  match ← nextKind with
  | .scalar style text => skip *> return .ofScalar style tag text
  | .flowListStart => skip *> .list <$> flowList nested true room
  | .flowMapStart => skip *> .ofTurns <$> flowMap nested true room
  | .blockListStart =>
    if position.isInBlock then skip *> .list <$> blockList nested room else missing
  | .blockMapStart =>
    if position.isInBlock then skip *> .ofTurns <$> blockMap nested room else missing
  | .blockEntry =>
    if position.isEntryAllowed then .list <$> bareList nested room else missing
  | _ => missing

def nodeWith (nested : Nested) (position : Position) : Step Node := do
  let token ← peek
  match token.kind with
  | .alias name => skip *> aliased token.mark name
  | _ =>
    let properties ← properties
    let node ← content nested position properties.tag properties.anchor.isSome
    setNamed properties.anchor node

def node : (depth : Nat) → Position → Step Node
  | 0, _ => fail .noNode
  | depth + 1, position => nodeWith (node depth) position

/-! ### Documents -/

def skipAll (kind : TokenKind) : (room : Nat) → Step Unit
  | 0 => return ()
  | room + 1 => do
    if ← took kind then skipAll kind room

def markedDocument : Step Node := do
  skipAll .directive (← room)
  if !(← took .documentStart) then fail .noDocumentStart
  nodeUnless [.directive, .documentStart, .documentEnd, .streamEnd] ⟨true, false⟩
    (node (← room))

/-- Reads documents; only the first one needs no mark before it. -/
def documents (isFirst : Bool) : (room : Nat) → Step (List Node)
  | 0 => return []
  | room + 1 => do
    if !isFirst then skipAll .documentEnd (← Reading.room)
    let kind ← nextKind
    if kind = .streamEnd then return []
    modify fun s => { s with anchors := [] }
    let isMarked := !isFirst || kind = .directive || kind = .documentStart
    let document ← if isMarked then markedDocument else node (← Reading.room) ⟨true, false⟩
    let _ ← took .documentEnd
    return document :: (← documents false room)

end Reading

/-- The value that a text is, or what is wrong with it. Without any document it is an empty map. -/
def read (source : Text) : Except Fault ConfigValue :=
  let tokens := Tokens.ofSource source
  match Reading.documents true (tokens.list.length + 1) { tokens } with
  | .error f => .error (.malformed f.report)
  | .ok ([], _) => .ok (.map [])
  | .ok ([document], _) => document.toConfig
  | .ok (documents, _) =>
    let count := String.ofList (Decimal.write documents.length)
    .error (.malformed s!"Got {count} YAML documents, expected 1")

end RelaySnapshot.Yaml
