import RelaySnapshot.ConfigValue

namespace RelaySnapshot.Toml

inductive Value where
  | text (s : Text)
  | integer (i : Int)
  | real (x : Double)
  | flag (b : Bool)
  /-- A date, a time, or both, as it is written. -/
  | moment (s : Text)
  | array (items : List Value)
  | table (entries : List (String × Value))
  deriving Inhabited

namespace Value

def kind : Value → String
  | text _ => "string"
  | integer _ => "integer"
  | real _ => "float"
  | flag _ => "boolean"
  | moment _ => "datetime"
  | array _ => "array"
  | table _ => "inline table"

mutual

/-- The value in a configuration; moments become texts. -/
def toConfig : Value → ConfigValue
  | text s => .ofText s
  | integer i => .integer i
  | real x => .real x
  | flag b => .flag b
  | moment s => .ofText s
  | array items => .list (itemsToConfig items)
  | table entries => .map (entriesToConfig entries)

def itemsToConfig : List Value → List ConfigValue
  | [] => []
  | item :: rest => toConfig item :: itemsToConfig rest

def entriesToConfig : List (String × Value) → List (String × ConfigValue)
  | [] => []
  | (name, value) :: rest => (name, toConfig value) :: entriesToConfig rest

end

end Value

end RelaySnapshot.Toml
