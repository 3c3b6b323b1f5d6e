import RelaySnapshot.Toml.Failure

namespace RelaySnapshot.Toml

abbrev Reader := StateT Text (Except Failure)

namespace Reader

variable {α β : Type}

def fail : Reader α := do
  throw { rest := ← get }

def peek : Reader (Option Char) :=
  return (← get).head?

def one (p : Char → Bool) : Reader Char := do
  match ← get with
  | c :: rest => if p c then set rest *> return c else fail
  | [] => fail

def char (c : Char) : Reader Unit := do
  let _ ← one (· == c)

def run (p : Char → Bool) : Reader Text :=
  modifyGet fun s => (s.takeWhile p, s.dropWhile p)

def nonemptyRun (p : Char → Bool) : Reader Text := do
  let taken ← run p
  if taken.isEmpty then fail else return taken

def word (s : String) : Reader Unit := do
  match Text.dropLeading? s.toList (← get) with
  | some rest => set rest
  | none => fail

def final (r : Reader α) : Reader α := fun s =>
  (r s).mapError fun f => { f with isFinal := true }

/-- Says what is being read, for failures that do not say so themselves. -/
def labelled (label : String) (r : Reader α) : Reader α := fun s =>
  (r s).mapError fun f => { f with label := f.label.or (some label) }

def expecting (expected : List String) (r : Reader α) : Reader α := fun s =>
  (r s).mapError fun f => { f with expected := f.expected ++ expected }

def optional (r : Reader α) : Reader (Option α) := fun s =>
  match r s with
  | .ok (a, rest) => .ok (some a, rest)
  | .error f => if f.isFinal then .error f else .ok (none, s)

def either (first second : Reader α) : Reader α := fun s =>
  match first s with
  | .ok result => .ok result
  | .error f => if f.isFinal then .error f else second s

/-- Reads at most `room` times what has to take at least one character. -/
def manyIn (r : Reader α) : (room : Nat) → Reader (List α)
  | 0 => return []
  | room + 1 => do
    match ← optional r with
    | none => return []
    | some a => return a :: (← manyIn r room)

def many (r : Reader α) : Reader (List α) := do
  manyIn r (← get).length

def separated (r : Reader α) (separator : Char) : Reader (List α) := do
  let first ← r
  return first :: (← many (char separator *> r))

/--
Reads something and converts it. If that is not possible, reading fails where it began, with the
fault that was found.
-/
def converted (r : Reader α) (convert : α → Except (Option Fault) β) : Reader β := fun s =>
  match r s with
  | .error f => .error f
  | .ok (a, rest) =>
    match convert a with
    | .ok b => .ok (b, rest)
    | .error fault => .error { rest := s, fault }

/-- Reads something and converts it; if it cannot be converted, the failure is final. -/
def convertedFinally (r : Reader α) (convert : α → Except (Option Fault) β) : Reader β := fun s =>
  match r s with
  | .error f => .error f
  | .ok _ => final (converted r convert) s

def recognized (r : Reader α) : Reader Text := fun s =>
  (r s).map fun (_, rest) => (s.take (s.length - rest.length), rest)

/-! ### Blanks and comments -/

def isSpace (c : Char) : Bool :=
  c == ' ' || c == '\t'

def spaces : Reader Unit := do
  let _ ← run isSpace

def newline : Reader Unit :=
  either (char '\n') (word "\x0d\n")

def isShown (c : Char) : Bool :=
  c == '\t' || (0x20 ≤ c.toNat && c.toNat != 0x7F)

def comment : Reader Unit := do
  char '#'
  let _ ← run isShown

def lineEnd : Reader Unit := do
  if (← optional newline).isNone then
    if !(← get).isEmpty then fail

def lineTail : Reader Unit := do
  spaces
  let _ ← optional comment
  lineEnd

def blanks : Reader Unit := do
  let _ ← many (either (do let _ ← nonemptyRun isSpace) (either newline comment))

end Reader

end RelaySnapshot.Toml
