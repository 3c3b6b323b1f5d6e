import RelaySnapshot.ConfigValue
import RelaySnapshot.Text.Decimal
import RelaySnapshot.Text.LowerCase

/-!
# Paths in keys

A key may lead into a value: `a.b` names an entry of the map `a`, and `a[2]` an item of the list
`a`, counted from its end if the number is negative. What is on the way and is no map or no list
becomes one. A key that is no path is a name as it stands.
-/

namespace RelaySnapshot

inductive KeyStep where
  | entry (name : String)
  | item (index : Int)
  deriving DecidableEq, Repr

structure KeyPath where
  name : String
  steps : List KeyStep := []
  deriving DecidableEq, Repr

namespace KeyPath

/-! ### Reading -/

/-- Whether a character may stand in a name that is part of a path. -/
def isNameChar (c : Char) : Bool :=
  c.isAlphanum || c == ' ' || c == '_' || c == '-'

def isSpace (c : Char) : Bool :=
  c == ' ' || c == '\t'

/-- Reads a name at the beginning of a text, and returns the rest of it. -/
def readName (s : Text) : Option (String × Text) :=
  let name := s.takeWhile isNameChar
  if name.isEmpty then none else some (String.ofList name, s.drop name.length)

def readIndex (s : Text) : Option (Int × Text) :=
  let s := s.dropWhile isSpace
  let (negative, s) := match s with
    | '-' :: s => (true, s)
    | s => (false, s)
  let digits := s.takeWhile Char.isDigit
  let index : Int := if negative then -(Decimal.value digits : Int) else Decimal.value digits
  match (s.drop digits.length).dropWhile isSpace with
  | ']' :: rest =>
    if digits.isEmpty || index < -(Nat.pow 2 63) || Nat.pow 2 63 ≤ index then none
    else some (index, rest)
  | _ => none

/-- Reads one step after another; every step takes at least one of the `room` characters. -/
def readSteps : (room : Nat) → Text → Option (List KeyStep)
  | _, [] => some []
  | room + 1, '.' :: s => do
    let (name, rest) ← readName s
    return .entry name :: (← readSteps room rest)
  | room + 1, '[' :: s => do
    let (index, rest) ← readIndex s
    return .item index :: (← readSteps room rest)
  | _, _ => none

/-- The path that a key is; a key that is none is a name. -/
def ofKey (key : String) : KeyPath :=
  let path : Option KeyPath := do
    let (name, rest) ← readName key.toList
    return ⟨name, ← readSteps rest.length rest⟩
  path.getD ⟨key, []⟩

end KeyPath

namespace ConfigValue

/-! ### Changes below a value -/

def keptName (name : String) : String :=
  String.ofList (Text.lowerCase name.toList)

mutual

/-- The value with an entry set. A map is merged, entry by entry, into what is there. -/
def withEntry (target : ConfigValue) (name : String) : ConfigValue → ConfigValue
  | .map entries =>
    let old := (target.entries.lookup (keptName name)).getD (.map [])
    .map (insertEntry (keptName name) (withEntries old entries) target.entries)
  | value => .map (insertEntry (keptName name) value target.entries)

def withEntries (target : ConfigValue) : List (String × ConfigValue) → ConfigValue
  | [] => target
  | (name, value) :: rest => withEntries (withEntry target name value) rest

end

def longestList : Nat :=
  Nat.pow 2 24

/--
The position that an index stands for in a list. There is none if it lies before the beginning of
the list or beyond every list.
-/
def position? (length : Nat) (index : Int) : Option Nat :=
  if 0 ≤ index then if index < longestList then some index.toNat else none
  else if index.natAbs ≤ length then some (length - index.natAbs)
  else none

/-- The items of a list with one of them set; the list grows if it is too short. -/
def withItem (items : List ConfigValue) (position : Nat) (value : ConfigValue) :
    List ConfigValue :=
  (items ++ List.replicate (position + 1 - items.length) ConfigValue.null).set position value

/-- The value with what steps lead to set, unless an index lies in no list. -/
def withValueAt (value target : ConfigValue) : KeyStep → List KeyStep → Option ConfigValue
  | .entry name, [] => some (target.withEntry name value)
  | .item index, [] => do
    let position ← position? target.items.length index
    return .list (withItem target.items position value)
  | .entry name, step :: steps => do
    let inner ← withValueAt value ((target.entries.lookup name).getD .null) step steps
    return .map (insertEntry name inner target.entries)
  | .item index, step :: steps => do
    let position ← position? target.items.length index
    let inner ← withValueAt value (target.items.getD position .null) step steps
    return .list (withItem target.items position inner)

/-- Whether a step leads into a value as it is. -/
def isEnteredBy (target : ConfigValue) : KeyStep → Bool
  | .entry _ => (target matches .map _)
  | .item _ => (target matches .list _)

end ConfigValue

end RelaySnapshot
