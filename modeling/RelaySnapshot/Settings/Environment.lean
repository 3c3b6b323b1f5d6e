import RelaySnapshot.Double.Shortest
import RelaySnapshot.Settings.Value
import RelaySnapshot.Text.LowerCase

namespace RelaySnapshot.Settings.Environment

def valueOf (s : String) : ConfigValue :=
  let lower := Text.lowerCase s.toList
  if lower = "true".toList then .flag true
  else if lower = "false".toList then .flag false
  else
    match Decimal.readInt? s.toList, Double.read? s.toList with
    | some i, _ => .integer i
    | none, some x => .real x
    | none, none => .text s

def entryOf? (name value : String) : Option (String × ConfigValue) :=
  (Text.dropLeading? "mator_".toList (Text.lowerCase name.toList)).map fun key =>
    (String.ofList key, valueOf value)

def entries (environment : List (String × String)) : List (String × ConfigValue) :=
  environment.filterMap fun (name, value) => entryOf? name value

end RelaySnapshot.Settings.Environment
