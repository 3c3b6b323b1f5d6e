import RelaySnapshot.Fingerprint

/-!
# Keyword lines

A descriptor consists of lines that begin with a keyword. Between them lie objects, from a line
`-----BEGIN …` to a line `-----END …`, whose content is not looked at, and annotations, which begin
with `@`.
-/

namespace RelaySnapshot.Descriptor

open Text

/-- The keywords that matter for a snapshot; accept and reject lines are the exit policy. -/
inductive Keyword where
  | router
  | published
  | fingerprint
  | bandwidth
  | platform
  | hibernating
  | family
  | accept
  | reject
  deriving DecidableEq, Repr

def Keyword.text : Keyword → String
  | .router => "router"
  | .published => "published"
  | .fingerprint => "fingerprint"
  | .bandwidth => "bandwidth"
  | .platform => "platform"
  | .hibernating => "hibernating"
  | .family => "family"
  | .accept => "accept"
  | .reject => "reject"

def Keyword.all : List Keyword :=
  [.router, .published, .fingerprint, .bandwidth, .platform, .hibernating, .family, .accept,
    .reject]

def Keyword.ofText? (word : Text) : Option Keyword :=
  Keyword.all.find? fun keyword => keyword.text.toList == word

/-- The word that begins a line and the text after the first space. -/
structure Line where
  word : Text
  arguments : Text
  deriving DecidableEq, Repr

/-- Cuts a line at its first space; `opt` before the keyword is an old way to mark it optional. -/
def Line.ofText (line : Text) : Line :=
  let line := (dropLeading? "opt ".toList line).getD line
  match cutAt [' '] line with
  | some (word, arguments) => ⟨word, arguments⟩
  | none => ⟨line, []⟩

def beginsObject (line : Text) : Bool :=
  startsWith "-----BEGIN ".toList line

def endsObject (line : Text) : Bool :=
  startsWith "-----END ".toList line

/-- The keyword lines among the given lines, of which the first lies inside an object or not. -/
def keywordLines : (inObject : Bool) → List Text → List Line
  | _, [] => []
  | inObject, line :: rest =>
    let line := dropReturns line
    if beginsObject line then keywordLines true rest
    else if endsObject line then keywordLines false rest
    else if inObject || line.isEmpty || line.head? == some '@' then keywordLines inObject rest
    else Line.ofText line :: keywordLines inObject rest

end RelaySnapshot.Descriptor
