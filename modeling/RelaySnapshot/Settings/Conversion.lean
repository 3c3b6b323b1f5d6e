import RelaySnapshot.Double.Shortest
import RelaySnapshot.Settings.Value
import RelaySnapshot.Text.LowerCase
import RelaySnapshot.Text.Quoted

/-!
# Conversion of settings

In files and in the environment a value may be written as another kind than its setting takes: a
number for a text, or a word for a flag. It is converted if that makes sense.
-/

namespace RelaySnapshot

inductive SettingKind where
  | text
  | optionalText
  | count
  | flag
  deriving DecidableEq, Repr

def Setting.kind : Setting → SettingKind
  | .dataDirectory | .geoDatabase | .whoisEndpoint => .text
  | .recentDirectory | .output => .optionalText
  | .whoisBatchSize | .whoisTimeout | .queueCapacity => .count
  | .keepsExisting => .flag

structure Mismatch where
  found : String
  expected : String
  deriving DecidableEq, Repr

def Mismatch.message (e : Mismatch) : String :=
  s!"invalid type: {e.found}, expected {e.expected}"

namespace ConfigValue

def describe : ConfigValue → String
  | .null => "unit value"
  | .flag b => s!"boolean `{b}`"
  | .integer i => s!"64-bit integer `{i}`"
  | .real x =>
    let numeral := String.ofList x.write
    s!"floating point `{numeral}`"
  | .text s =>
    let quoted := Text.quoted s
    s!"string {quoted}"
  | .list _ => "sequence"
  | .map _ => "map"

def mismatch {α : Type} (value : ConfigValue) (expected : String) : Except Mismatch α :=
  .error ⟨value.describe, expected⟩

def lowerCase (s : String) : String :=
  String.ofList (Text.lowerCase s.toList)

def flagOfWord? (word : String) : Option Bool :=
  if ["true", "on", "yes"].contains (lowerCase word) then some true
  else if ["false", "off", "no"].contains (lowerCase word) then some false
  else none

def toText (value : ConfigValue) : Except Mismatch ConfigValue :=
  match value with
  | .text s => .ok (.text s)
  | .flag b => .ok (.text (if b then "true" else "false"))
  | .integer i => .ok (.text (String.ofList (Decimal.writeInt i)))
  | .real x => .ok (.text (String.ofList x.write))
  | value => value.mismatch "a string"

/-- A number that is no integer is rounded, and cut off at the ends of the range. -/
def toCount (value : ConfigValue) : Except Mismatch ConfigValue :=
  match value with
  | .integer i =>
    if 0 ≤ i then .ok value else value.mismatch "an unsigned 64 bit or less integer"
  | .flag b => .ok (.integer (if b then 1 else 0))
  | .real x =>
    .ok (.integer (if x.isNaN then 0 else max 0 (min x.roundAway (Nat.pow 2 64 - 1))))
  | .text s =>
    match flagOfWord? s, Decimal.read? (Nat.pow 2 64) s.toList with
    | some b, _ => .ok (.integer (if b then 1 else 0))
    | none, some n => .ok (.integer n)
    | none, none => value.mismatch "an integer"
  | value => value.mismatch "an integer"

def toFlag (value : ConfigValue) : Except Mismatch ConfigValue :=
  match value with
  | .flag b => .ok (.flag b)
  | .integer i => .ok (.flag (i != 0))
  | .real x => .ok (.flag (!x.isZero))
  | .text "1" => .ok (.flag true)
  | .text "0" => .ok (.flag false)
  | .text s =>
    match flagOfWord? s with
    | some b => .ok (.flag b)
    | none => mismatch (.text (lowerCase s)) "a boolean"
  | value => value.mismatch "a boolean"

def convert (kind : SettingKind) (value : ConfigValue) : Except Mismatch ConfigValue :=
  match kind, value with
  | .text, value => value.toText
  | .optionalText, .null => .ok .null
  | .optionalText, value => value.toText
  | .count, value => value.toCount
  | .flag, value => value.toFlag

end ConfigValue

end RelaySnapshot
