import RelaySnapshot.Toml.Moment
import RelaySnapshot.Toml.Number
import RelaySnapshot.Toml.Quotation
import RelaySnapshot.Toml.Table

namespace RelaySnapshot.Toml

namespace Reader

/-! ### Keys -/

def isBare (c : Char) : Bool :=
  c.isAlphanum || c == '-' || c == '_'

def simpleKey : Reader Text := do
  match ← peek with
  | some '"' => basicString
  | some '\x27' => literalString
  | _ => nonemptyRun isBare

def depthLimit : Nat := 80

def key : Reader (List String) :=
  let part : Reader String := do
    spaces
    let name ← simpleKey
    spaces
    return String.ofList name
  converted (labelled "key" (separated part '.')) fun path =>
    if path.length < depthLimit then .ok path else .error (some .tooDeep)

def equals : Reader Unit :=
  expecting ["`.`", "`=`"] (char '=')

/-! ### Values -/

def expectString {α : Type} (r : Reader α) : Reader α :=
  expecting ["`\"`", "`'`"] (labelled "string" r)

/-- Reads values between brackets. A comma may follow the last one. -/
def array (value : Reader Value) : Reader Value := do
  let item : Reader Value := do
    blanks
    let v ← value
    blanks
    return v
  char '['
  let items ← final do
    if (← peek) = some ']' then return []
    let items ← optional do
      let items ← separated item ','
      let _ ← optional (char ',')
      return items
    blanks
    return items.getD []
  expecting ["`]`"] (labelled "array" (final (char ']')))
  return .array items

def braces (value : Reader Value) : Reader Value := do
  let pair : Reader (List String × Value) := do
    let path ← key
    final do
      equals
      spaces
      let v ← value
      spaces
      return (path, v)
  char '\x7b'
  let pairs : Reader (List (List String × Value)) := do
    let pairs ← optional (separated pair ',')
    spaces
    return pairs.getD []
  let table ← final (converted pairs fun pairs => (inlineTable pairs).mapError some)
  expecting ["`\x7d`"] (labelled "inline table" (final (char '\x7d')))
  return table

def number : Reader Value :=
  either (return .moment (← moment)) <| either (return .real (← real)) (return .integer (← integer))

/-- Reads a value in which others may be nested, given how nested ones are read. -/
def valueWith (nested : (Reader Value → Reader Value) → Reader Value) : Reader Value := do
  match ← peek with
  | none => fail
  | some '"' | some '\x27' => return .text (← string)
  | some '[' => nested array
  | some '\x7b' => nested braces
  | some '_' => expecting ["leading digit"] (return .integer (← integer))
  | some '.' => expecting ["leading digit"] (return .real (← real))
  | some 't' => expectString (final (word "true") *> return .flag true)
  | some 'f' => expectString (final (word "false") *> return .flag false)
  | some 'i' => expectString (word "inf" *> return .real Double.infinity)
  | some 'n' => expectString (word "nan" *> return .real Double.notANumber)
  | some c => if isSign c || c.isDigit then number else expectString fail

/-- Reads a value in which values are nested to some depth at most. -/
def value : (depth : Nat) → Reader Value
  | 0 => valueWith fun _ => fun rest => .error { rest, isFinal := true, fault := some .tooDeep }
  | depth + 1 => valueWith fun enclosed => enclosed (value depth)

/-! ### Documents -/

def keyValue : Reader (List String × Value) := do
  let path ← key
  final do
    equals
    spaces
    let v ← value (depthLimit - 1)
    expecting ["newline", "`#`"] lineTail
    return (path, v)

/-- Reads a header between one or two brackets up to the end of the line. -/
def header (brackets : Nat) : Reader (List String) := do
  let closing := String.ofList (List.replicate brackets ']')
  word (String.ofList (List.replicate brackets '['))
  final do
    let path ← key
    expecting ["`.`", s!"`{closing}`"] (word closing)
    expecting ["newline", "`#`"] lineTail
    return path

def table (draft : Draft) : Reader Draft :=
  labelled "table header" do
    let rest ← get
    if Text.byteLength rest < 2 then fail
    let isRepeated := Text.startsWith ['[', '['] rest
    converted (header (if isRepeated then 2 else 1)) fun path =>
      (draft.withHeader path isRepeated).mapError some

/-- Reads a comment, a header, the end of a line, or a key with its value. -/
def expression (draft : Draft) : Reader Draft := do
  match ← peek with
  | none => fail
  | some '#' => final (comment *> lineEnd *> return draft)
  | some '[' => final (table draft)
  | some '\n' | some '\r' => newline *> return draft
  | some _ => final (converted keyValue fun (path, v) => (draft.withValue path v).mapError some)

def expressions (draft : Draft) : (room : Nat) → Reader Draft
  | 0 => return draft
  | room + 1 => do
    let next ← optional do
      let draft ← expression draft
      spaces
      return draft
    match next with
    | none => return draft
    | some draft => expressions draft room

def document : Reader Draft := do
  let _ ← optional (char (Char.ofNat 0xFEFF))
  spaces
  let draft ← expressions {} (← get).length
  if !(← get).isEmpty then fail
  return draft

end Reader

/-- The values in a document by their names, or the report of what is wrong with it. -/
def read (source : Text) : Except String (List (String × ConfigValue)) :=
  match Reader.document source with
  | .error f => .error (f.report source)
  | .ok (draft, _) =>
    match draft.closed with
    | .ok entries => .ok (Value.entriesToConfig (Entries.toValues entries))
    | .error fault => .error (fault.message ++ "\n")

end RelaySnapshot.Toml
