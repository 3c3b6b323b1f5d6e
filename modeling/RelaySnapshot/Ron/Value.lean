import RelaySnapshot.ConfigValue
import RelaySnapshot.Double.Shortest
import RelaySnapshot.Text.Decimal

namespace RelaySnapshot.Ron

inductive Value where
  | unit
  | absent
  | present (v : Value)
  | flag (b : Bool)
  | integer (i : Int)
  | real (x : Double)
  | character (c : Char)
  | text (s : String)
  | list (items : List Value)
  | map (entries : List (Value × Value))
  deriving Inhabited

namespace Value

def describe : Value → String
  | flag b => s!"the boolean `{b}`"
  | integer i =>
    let numeral := String.ofList (Decimal.writeInt i)
    s!"the signed integer `{numeral}`"
  | real x =>
    let numeral := String.ofList x.write
    s!"the floating point number `{numeral}`"
  | absent | present _ => "an optional value"
  | list _ => "a sequence"
  | map _ => "a map"
  | _ => "a unit value"

def toKey : Value → Except String String
  | text s => .ok s
  | character c => .ok (String.singleton c)
  | v => .error s!"Expected a string but found {v.describe} instead"

mutual

/-- The value in a configuration, or what is wrong with a key in it. -/
def toConfig : Value → Except String ConfigValue
  | unit | absent => .ok .null
  | present v => toConfig v
  | flag b => .ok (.flag b)
  | integer i => .ok (.integer i)
  | real x => .ok (.real x)
  | character c => .ok (.text (String.singleton c))
  | text s => .ok (.text s)
  | list items => return .list (← itemsToConfig items)
  | map entries => return .map (← entriesToConfig [] entries)

def itemsToConfig : List Value → Except String (List ConfigValue)
  | [] => .ok []
  | item :: rest => return (← toConfig item) :: (← itemsToConfig rest)

def entriesToConfig (earlier : List (String × ConfigValue)) :
    List (Value × Value) → Except String (List (String × ConfigValue))
  | [] => .ok earlier
  | (key, value) :: rest => do
    let name ← key.toKey
    entriesToConfig (ConfigValue.insertEntry name (← toConfig value) earlier) rest

end

end Value

end RelaySnapshot.Ron
