import RelaySnapshot.Text.Basic

namespace RelaySnapshot.Path

/-- The parts of a path between its slashes. -/
def components (path : String) : List String :=
  (Text.split (· == '/') path.toList).map String.ofList

def isAbsolute (path : String) : Bool :=
  path.toList.head? == some '/'

def ofNames (names : List String) : String :=
  "/" ++ "/".intercalate names

/-- The names that lead from one place to another, as far as they go on in different ways. -/
def between : (base names : List String) → List String
  | a :: base, b :: names =>
    if a = b then between base names else List.replicate (base.length + 1) ".." ++ b :: names
  | base, names => List.replicate base.length ".." ++ names

def join (base name : String) : String :=
  if base.isEmpty || isAbsolute name then name
  else if base.toList.getLast? = some '/' then base ++ name
  else base ++ "/" ++ name

/-- The last name of a path; dots that stand for the directory itself are passed over. -/
def fileName? (path : String) : Option String :=
  match ((components path).filter fun name => name != "" && name != ".").getLast? with
  | some ".." => none
  | name => name

/-- What follows the last point of a name, unless the name begins with that point. -/
def extension? (name : String) : Option String :=
  let reversed := name.toList.reverse
  let after := reversed.takeWhile (· != '.')
  match reversed.dropWhile (· != '.') with
  | [] => none
  | [_] => none
  | _ => some (String.ofList after.reverse)

def endsWith (suffix s : String) : Bool :=
  Text.startsWith suffix.toList.reverse s.toList.reverse

end RelaySnapshot.Path
