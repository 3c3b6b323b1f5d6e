import RelaySnapshot.Double
import RelaySnapshot.Text.Basic

namespace RelaySnapshot

inductive ConfigValue where
  | null
  | flag (b : Bool)
  | integer (i : Int)
  /-- A number that is not written as an integer. -/
  | real (x : Double)
  | text (s : String)
  | list (items : List ConfigValue)
  | map (entries : List (String × ConfigValue))
  deriving Inhabited

namespace ConfigValue

def ofText (s : Text) : ConfigValue :=
  .text (String.ofList s)

/-- The items of a list; no other value has items. -/
def items : ConfigValue → List ConfigValue
  | .list items => items
  | _ => []

/-- The entries of a map; no other value has entries. -/
def entries : ConfigValue → List (String × ConfigValue)
  | .map entries => entries
  | _ => []

/-- Entries with the value of a name changed, or with the name added at the end. -/
def insertEntry (name : String) (value : ConfigValue) :
    List (String × ConfigValue) → List (String × ConfigValue)
  | [] => [(name, value)]
  | (other, old) :: rest =>
    if other = name then (name, value) :: rest else (other, old) :: insertEntry name value rest

end ConfigValue

end RelaySnapshot
