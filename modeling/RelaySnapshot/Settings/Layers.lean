import RelaySnapshot.Settings.Conversion
import RelaySnapshot.Settings.KeyPath

namespace RelaySnapshot

/--
The value of a name, and where it is given. What is put together from several values is given
nowhere.
-/
structure LayeredValue where
  value : ConfigValue
  origin : Option String := none

/-- Values by name, each name once. -/
abbrev Layers := List (String × LayeredValue)

namespace Layers

def put (layers : Layers) (name : String) (value : LayeredValue) : Layers :=
  if (layers.lookup name).isSome then
    layers.map fun (other, old) => (other, if other = name then value else old)
  else layers ++ [(name, value)]

/-- Sets the value of a name, which is kept in lower case. A map is merged into what is there. -/
def setName (layers : Layers) (origin name : String) (value : ConfigValue) : Layers :=
  let name := ConfigValue.keptName name
  match value with
  | .map entries =>
    let old := (layers.lookup name).getD ⟨.map [], none⟩
    let kept := entries.isEmpty || old.value matches .map _
    layers.put name ⟨old.value.withEntries entries, if kept then old.origin else none⟩
  | value => layers.put name ⟨value, some origin⟩

/-- Sets the value that a key leads to, unless an index in the key lies in no list. -/
def set (layers : Layers) (origin key : String) (value : ConfigValue) : Option Layers :=
  match KeyPath.ofKey key with
  | ⟨name, []⟩ => some (layers.setName origin name value)
  | ⟨name, step :: steps⟩ => do
    let old := (layers.lookup name).getD ⟨.null, none⟩
    let new ← value.withValueAt old.value step steps
    return layers.put name ⟨new, if old.value.isEnteredBy step then old.origin else none⟩

def add (layers : Layers) (origin : String) (entries : List (String × ConfigValue)) :
    Option Layers :=
  entries.foldlM (fun layers (key, value) => layers.set origin key value) layers

end Layers

/-- A setting is given a value that it does not take. -/
structure SettingMismatch where
  setting : Setting
  origin : Option String
  cause : Mismatch
  deriving DecidableEq, Repr

def SettingMismatch.message (e : SettingMismatch) : String :=
  let text := s!"{e.cause.message} for key `{e.setting.name}`"
  match e.origin with
  | some origin => s!"{text} in {origin}"
  | none => text

namespace Settings

/-- The settings with one of them changed to the value that is given for it, if there is one. -/
def applyGiven (layers : Layers) (settings : Settings) (setting : Setting) :
    Except SettingMismatch Settings :=
  match layers.lookup setting.name with
  | none => .ok settings
  | some given =>
    match given.value.convert setting.kind with
    | .ok value => .ok ((value.apply settings setting).getD settings)
    | .error cause => .error ⟨setting, given.origin, cause⟩

/-- The settings that are given; unknown names are passed over. -/
def ofLayers (layers : Layers) : Except SettingMismatch Settings :=
  Setting.all.foldlM (applyGiven layers) {}

end Settings

end RelaySnapshot
