import RelaySnapshot.Build

namespace RelaySnapshot

structure Report where
  context : String
  causes : List String := []
  deriving DecidableEq, Repr

namespace Report

/-- A cause behind a mark on its first line; its other lines are indented as far as the mark. -/
def writeCause (mark cause : String) : String :=
  let margin := String.ofList (List.replicate mark.length ' ')
  let lines := (RelaySnapshot.Text.lines cause.toList).map String.ofList
  mark ++ ("\n" ++ margin).intercalate lines ++ "\n"

def writeCauses : List String → String
  | [] => ""
  | [cause] => "\nCaused by:\n" ++ writeCause "    " cause
  | causes => "\nCaused by:\n" ++ String.join (causes.zipIdx.map fun (cause, n) =>
      writeCause s!"    {n}: " cause)

def text (report : Report) : String :=
  s!"Error: {report.context}\n" ++ writeCauses report.causes

end Report

/-! ### Causes -/

/-- What lies behind an error, outermost first, without the message of the error itself. -/
def IoError.causes : IoError → List String
  | .walk _ cause => [cause.message]
  | _ => []

def DatabaseError.causes : DatabaseError → List String
  | .cannotOpen _ | .noJournal => ["Error code 14: Unable to open the database file"]
  | .notADatabase => ["Error code 26: File opened that is not a database file"]
  | .noSuchTable _ => ["Error code 1: SQL error or missing database"]
  | .repeatedNode => ["Error code 1555: A PRIMARY KEY constraint failed"]
  | .missingValue .. => ["Error code 1299: A NOT NULL constraint failed"]
  | .mismatch => ["Error code 20: Data type mismatch"]
  | .nulInPath position => [DatabaseError.message (.nulInPath position)]
  | .wrongType .. => []

def StoreError.causes : StoreError → List String
  | .fingerprint cause => [cause.message]
  | .database cause => [cause.quotedMessage, cause.message] ++ cause.causes
  | .io cause => cause.message :: cause.causes
  | .address => ["invalid IP address syntax"]
  | _ => []

def LookupError.causes : LookupError → List String
  | .whois (.io cause) => cause.message :: cause.causes
  | .geo cause => [cause.message]
  | _ => []

def SourceError.causes : SourceError → List String
  | .io cause => cause.causes
  | .other _ => []

def BuildError.causes : BuildError → List String
  | .source _ cause => cause.message :: cause.causes
  | .enrichment cause => cause.message :: cause.causes
  | .persistence cause => cause.message :: cause.causes
  | _ => []

end RelaySnapshot
