import RelaySnapshot.Settings
import RelaySnapshot.Source

namespace RelaySnapshot

structure LocatedSource where
  name : String
  root : String
  deriving DecidableEq, Repr

structure LocatedSources where
  main : Option LocatedSource
  complementary : Option LocatedSource
  recent : List LocatedSource
  deriving DecidableEq, Repr

namespace Source

/-- The first of the path itself and the path with an ending that leads to something. -/
def locate (files : Files) (base : String) : Option String :=
  [base, base ++ ".tar.xz", base ++ ".gz"].find? files.contains

def recentFiles (files : Files) (path : String) : List String :=
  match files.get path with
  | .ok (place, .directory) =>
    ((files.names place).map (Path.join path)).filter files.isFile
  | _ => []

/-- The sources of a build, or the path at which the main archive is missing. -/
def locateAll (files : Files) (settings : Settings) (month : Month) (now : Instant) :
    Except String LocatedSources :=
  let current := month.contains now
  let base := settings.archiveBase month
  match locate files base, current with
  | none, false => .error base
  | main, _ => .ok {
      main := main.map (⟨"main", ·⟩)
      complementary :=
        (locate files (settings.archiveBase month.previous)).map (⟨"complementary", ·⟩)
      recent :=
        if current then (recentFiles files settings.recentPath).map (⟨"recent", ·⟩) else [] }

end Source

end RelaySnapshot
