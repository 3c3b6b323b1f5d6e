import RelaySnapshot.ConfigValue
import RelaySnapshot.Double.Shortest
import RelaySnapshot.Text.Hexadecimal
import RelaySnapshot.Yaml.Token

namespace RelaySnapshot.Yaml

inductive Node where
  | null
  | flag (b : Bool)
  | integer (i : Int)
  /-- A number that is not written as an integer. -/
  | real (numeral : Text)
  | text (s : Text)
  | list (items : List Node)
  | map (entries : List (Node × Node))
  /-- No value. -/
  | missing
  deriving Inhabited, BEq

namespace Node

/-! ### Single values -/

def radixInteger? (base : Nat) (s : Text) : Option Int :=
  let (negative, digits) := match s with
    | '-' :: digits => (true, digits)
    | '+' :: digits => (false, digits)
    | digits => (false, digits)
  let values := digits.mapM fun c =>
    (Hexadecimal.digitValue? c).bind fun d => if d.val < base then some d.val else none
  match values with
  | none | some [] => none
  | some values =>
    let size : Int := (values.foldl (fun n d => base * n + d) 0 : Nat)
    let i := if negative then -size else size
    if -(Nat.pow 2 63) ≤ i ∧ i < Nat.pow 2 63 then some i else none

/-- Integers are written in base ten, or in base 16 or 8 after a mark. -/
def integer? (s : Text) : Option Int :=
  let marked := match s with
    | '0' :: 'x' :: digits => radixInteger? 16 digits
    | '0' :: 'o' :: digits => radixInteger? 8 digits
    | '+' :: digits => Decimal.readInt? digits
    | _ => none
  marked.or (Decimal.readInt? s)

/-- Whether a text is a number, or one of the words for what is not finite. -/
def isReal (s : Text) : Bool :=
  [".inf", ".Inf", ".INF", "+.inf", "+.Inf", "+.INF", "-.inf", "-.Inf", "-.INF", ".nan", "NaN",
    ".NAN"].contains (String.ofList s) || (Double.read? s).isSome

def ofPlain (s : Text) : Node :=
  match String.ofList s, integer? s with
  | "~", _ | "null", _ => null
  | "true", _ => flag true
  | "false", _ => flag false
  | _, some i => integer i
  | _, none => if isReal s then real s else text s

def ofTagged (kind : String) (s : Text) : Node :=
  match kind with
  | "bool" =>
    if s = "true".toList then flag true else if s = "false".toList then flag false else missing
  | "int" => ((Decimal.readInt? s).map integer).getD missing
  | "float" => if isReal s then real s else missing
  | "null" => if s = ['~'] ∨ s = "null".toList then null else missing
  | _ => text s

def ofScalar (style : ScalarStyle) (tag : Option Tag) (s : Text) : Node :=
  match style, tag with
  | .plain, none => ofPlain s
  | .plain, some tag =>
    if tag.handle = ['!', '!'] then ofTagged (String.ofList tag.suffix) s else text s
  | _, _ => text s

/-! ### Maps -/

def addEntry (entries : List (Node × Node)) (key value : Node) : List (Node × Node) :=
  entries.filter (!·.1 == key) ++ [(key, value)]

/-- The entries that keys and values in turn make up. What is no value is passed over as a key. -/
def entriesFrom (entries : List (Node × Node)) : List Node → List (Node × Node)
  | [] => entries
  | [_] => entries
  | .missing :: rest => entriesFrom entries rest
  | key :: value :: rest => entriesFrom (addEntry entries key value) rest

def ofTurns (nodes : List Node) : Node :=
  map (entriesFrom [] nodes)

end Node

inductive Fault where
  | malformed (report : String)
  /-- A key is neither a text nor an integer. -/
  | strayKey
  deriving DecidableEq, Repr

namespace Node

/-! ### Values in a configuration -/

def realOf (numeral : Text) : Except Fault ConfigValue :=
  match Double.read? numeral with
  | some x => .ok (.real x)
  | none =>
    let numeral := String.ofList numeral
    .error (.malformed s!"Parsing {numeral} as floating point number failed")

def toName : Node → Except Fault String
  | text s => .ok (String.ofList s)
  | integer i => .ok (String.ofList (Decimal.writeInt i))
  | _ => .error .strayKey

mutual

def toConfig : Node → Except Fault ConfigValue
  | null | missing => .ok .null
  | flag b => .ok (.flag b)
  | integer i => .ok (.integer i)
  | real numeral => realOf numeral
  | text s => .ok (.ofText s)
  | list items => return .list (← itemsToConfig items)
  | map entries => return .map (← entriesToConfig [] entries)

def itemsToConfig : List Node → Except Fault (List ConfigValue)
  | [] => .ok []
  | item :: rest => return (← toConfig item) :: (← itemsToConfig rest)

/-- Later values take the place of earlier ones with the same name. -/
def entriesToConfig (earlier : List (String × ConfigValue)) :
    List (Node × Node) → Except Fault (List (String × ConfigValue))
  | [] => .ok earlier
  | (key, value) :: rest => do
    let name ← key.toName
    entriesToConfig (ConfigValue.insertEntry name (← toConfig value) earlier) rest

end

end Node

end RelaySnapshot.Yaml
