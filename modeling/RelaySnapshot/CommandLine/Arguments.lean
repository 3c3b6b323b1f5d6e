import RelaySnapshot.Settings
import RelaySnapshot.Text.Basic

namespace RelaySnapshot

inductive PathOption where
  | configuration
  | output
  | dataDirectory
  | recentDirectory
  | geoDatabase
  deriving DecidableEq, Repr

inductive FlagOption where
  | keepsExisting
  | quiet
  deriving DecidableEq, Repr

inductive CommandOption where
  | path (option : PathOption)
  | flag (option : FlagOption)
  /-- Asks for a text about the program in place of a run. -/
  | about
  deriving DecidableEq, Repr

namespace CommandOption

def ofName? (name : Text) : Option CommandOption :=
  match String.ofList name with
  | "config" => some (.path .configuration)
  | "output" => some (.path .output)
  | "data-dir" => some (.path .dataDirectory)
  | "recent-dir" => some (.path .recentDirectory)
  | "geo-db" => some (.path .geoDatabase)
  | "no-clobber" => some (.flag .keepsExisting)
  | "quiet" => some (.flag .quiet)
  | "help" => some .about
  | "version" => some .about
  | _ => none

def ofLetter? : Char → Option CommandOption
  | 'c' => some (.path .configuration)
  | 'o' => some (.path .output)
  | 'q' => some (.flag .quiet)
  | 'h' => some .about
  | 'V' => some .about
  | _ => none

end CommandOption

inductive NoRun where
  | about
  | malformed
  deriving DecidableEq, Repr

structure Arguments where
  month : String
  paths : List (PathOption × String)
  flags : List FlagOption
  deriving DecidableEq, Repr

namespace Arguments

structure Draft where
  month : Option String := none
  paths : List (PathOption × String) := []
  flags : List FlagOption := []

namespace Draft

def withMonth (draft : Draft) (month : String) : Except NoRun Draft :=
  if draft.month.isSome then .error .malformed else .ok { draft with month := some month }

/-- An option is given at most once, and no path is empty. -/
def withPath (draft : Draft) (option : PathOption) (path : String) : Except NoRun Draft :=
  if path.isEmpty || (draft.paths.lookup option).isSome then .error .malformed
  else .ok { draft with paths := (option, path) :: draft.paths }

def withFlag (draft : Draft) (option : FlagOption) : Except NoRun Draft :=
  if draft.flags.contains option then .error .malformed
  else .ok { draft with flags := option :: draft.flags }

/-- Reads the letters of an argument, and returns the option whose value has to follow. -/
def withLetters (draft : Draft) : Text → Except NoRun (Draft × Option PathOption)
  | [] => .ok (draft, none)
  | letter :: rest =>
    match CommandOption.ofLetter? letter with
    | none => .error .malformed
    | some .about => .error .about
    | some (.flag option) => do (← draft.withFlag option).withLetters rest
    | some (.path option) =>
      match rest with
      | [] => .ok (draft, some option)
      | '=' :: path => (draft.withPath option (String.ofList path)).map (·, none)
      | path => (draft.withPath option (String.ofList path)).map (·, none)

/-- Reads an option by its long name, perhaps with a value after `=`. -/
def withName (draft : Draft) (name : Text) (value : Option Text) :
    Except NoRun (Draft × Option PathOption) :=
  match CommandOption.ofName? name, value with
  | some (.path option), none => .ok (draft, some option)
  | some (.path option), some path =>
    (draft.withPath option (String.ofList path)).map (·, none)
  | some (.flag option), none => (draft.withFlag option).map (·, none)
  | some .about, none => .error .about
  | _, _ => .error .malformed

end Draft

inductive Shape where
  | value
  /-- Two dashes alone; no options follow. -/
  | endOfOptions
  | named (name : Text) (value : Option Text)
  | letters (letters : Text)
  deriving DecidableEq, Repr

def Shape.of : Text → Shape
  | ['-'] => .value
  | ['-', '-'] => .endOfOptions
  | '-' :: '-' :: rest =>
    match Text.cutAt ['='] rest with
    | some (name, path) => .named name (some path)
    | none => .named rest none
  | '-' :: rest => .letters rest
  | _ => .value

/-- Reads arguments, the first of which is the value of the option that waits for one. -/
def readFrom (draft : Draft) : (waiting : Option PathOption) → List String → Except NoRun Draft
  | none, [] => .ok draft
  | some _, [] => .error .malformed
  | waiting, argument :: rest =>
    match waiting, Shape.of argument.toList with
    | some option, .value => do readFrom (← draft.withPath option argument) none rest
    | some _, _ => .error .malformed
    | none, .value => do readFrom (← draft.withMonth argument) none rest
    | none, .endOfOptions => rest.foldlM Draft.withMonth draft
    | none, .named name value => do
      let (draft, waiting) ← draft.withName name value
      readFrom draft waiting rest
    | none, .letters letters => do
      let (draft, waiting) ← draft.withLetters letters
      readFrom draft waiting rest

def read (arguments : List String) : Except NoRun Arguments := do
  let draft ← readFrom {} none arguments
  match draft.month with
  | some month => return ⟨month, draft.paths, draft.flags⟩
  | none => throw .malformed

def path? (arguments : Arguments) (option : PathOption) : Option String :=
  arguments.paths.lookup option

def apply (arguments : Arguments) (settings : Settings) : Settings :=
  { settings with
    output := (arguments.path? .output).or settings.output
    dataDirectory := (arguments.path? .dataDirectory).getD settings.dataDirectory
    recentDirectory := (arguments.path? .recentDirectory).or settings.recentDirectory
    geoDatabase := (arguments.path? .geoDatabase).getD settings.geoDatabase
    keepsExisting := settings.keepsExisting || arguments.flags.contains .keepsExisting }

end Arguments

end RelaySnapshot
