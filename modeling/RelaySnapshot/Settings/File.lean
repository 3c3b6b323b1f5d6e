import RelaySnapshot.Content
import RelaySnapshot.Ini
import RelaySnapshot.Json
import RelaySnapshot.Json5.Document
import RelaySnapshot.Ron.Document
import RelaySnapshot.Settings.Conversion
import RelaySnapshot.Text.Utf8
import RelaySnapshot.Toml.Document
import RelaySnapshot.Yaml.Document

namespace RelaySnapshot

inductive FileFormat where
  | toml
  | json
  | yaml
  | ini
  | ron
  | json5
  deriving DecidableEq, Repr

namespace FileFormat

def all : List FileFormat :=
  [.toml, .json, .yaml, .ini, .ron, .json5]

def endings : FileFormat → List String
  | toml => ["toml"]
  | json => ["json"]
  | yaml => ["yaml", "yml"]
  | ini => ["ini"]
  | ron => ["ron"]
  | json5 => ["json5"]

def ofEnding? (ending : String) : Option FileFormat :=
  all.find? (·.endings.contains ending)

end FileFormat

namespace Settings.File

inductive Fault where
  | notFound (path : String)
  | unknownFormat (path : String)
  | malformed (report origin : String)
  /-- The document is no map. -/
  | notAMap (cause : Mismatch) (origin : String)
  /-- A key in the document is of a kind that ends the run. -/
  | strayKey
  deriving DecidableEq, Repr

def Fault.message : Fault → String
  | notFound path => s!"configuration file \"{path}\" not found"
  | unknownFormat path => s!"configuration file \"{path}\" is not of a registered file format"
  | malformed report origin => s!"{report} in {origin}"
  | notAMap cause origin => s!"{cause.message} in {origin} in {origin}"
  | strayKey => "a key is of another kind"

/-! ### Finding the file -/

def namesOn (path : String) : List String :=
  (Path.components path).filter fun part => part != "" && part != "."

def shownPath (files : Files) (path : String) : String :=
  "/".intercalate (Path.between files.here (namesOn path))

/-- The absolute path with an ending after its last name, if it ends with a name. -/
def withEnding? (path ending : String) : Option String :=
  let names := namesOn path
  match names.getLast? with
  | none | some ".." => none
  | some _ => some ("/" ++ "/".intercalate names ++ "." ++ ending)

/-- The paths that are tried if there is no file at an absolute path. -/
def candidates (path : String) : List (String × FileFormat) :=
  FileFormat.all.flatMap fun format =>
    format.endings.filterMap fun ending => (withEnding? path ending).map (·, format)

/-- Finds the file that a path stands for, as an absolute path, and its format. -/
def locate (files : Files) (path : String) : Except Fault (String × FileFormat) :=
  let absolute := Path.join (Path.ofNames files.here) path
  if files.isFile absolute then
    match ((Path.fileName? absolute).bind Path.extension?).bind FileFormat.ofEnding? with
    | some format => .ok (absolute, format)
    | none => .error (.unknownFormat absolute)
  else
    match (candidates absolute).find? fun (path, _) => files.isFile path with
    | some found => .ok found
    | none => .error (.notFound path)

/-! ### Reading it -/

/-- The text that bytes are; a mark of their encoding may precede it. -/
def decode (bytes : List UInt8) : RelaySnapshot.Text :=
  Utf8.decodeLossy (if [0xEF, 0xBB, 0xBF].isPrefixOf bytes then bytes.drop 3 else bytes)

def readDocument (format : FileFormat) (origin : String) (source : RelaySnapshot.Text) :
    Except Fault ConfigValue :=
  let malformed (report : String) : Fault := .malformed report origin
  match format with
  | .toml => ((Toml.read source).map .map).mapError malformed
  | .json => (Json.read source).mapError malformed
  | .yaml => (Yaml.read source).mapError fun
    | .malformed report => malformed report
    | .strayKey => .strayKey
  | .ini => ((Ini.read source).map .map).mapError malformed
  | .ron => (Ron.read source).mapError malformed
  | .json5 => (Json5.read source).mapError malformed

/-- The file that a path stands for, as messages show it, and the entries in it. -/
def read (files : Files) (path : String) :
    Except Fault (String × List (String × ConfigValue)) := do
  let (path, format) ← locate files path
  let origin := shownPath files path
  let bytes := match files.get path with
    | .ok (_, .file content) => content.data
    | _ => []
  match ← readDocument format origin (decode bytes) with
  | .map entries => return (origin, entries)
  | root => throw (.notAMap ⟨root.describe, "a map"⟩ origin)

end Settings.File

end RelaySnapshot
