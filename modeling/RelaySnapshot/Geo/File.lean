import RelaySnapshot.Content

namespace RelaySnapshot.Geo

def openFile (formats : Formats) (files : Files) (path : String) : Except Error Database :=
  match files.read path with
  | .ok content =>
    match formats.geo content.data with
    | some db => .ok db
    | none => .error .notADatabase
  | .error e => .error (.io e)

end RelaySnapshot.Geo
