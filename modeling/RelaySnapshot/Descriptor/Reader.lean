import RelaySnapshot.Address.Parser
import RelaySnapshot.Calendar.Timestamp
import RelaySnapshot.Descriptor
import RelaySnapshot.Descriptor.Line

/-!
# Reading a descriptor

The keyword lines are taken in order into a draft, which has to be complete in the end. Of the
router lines the first counts, of most other lines the last; family members and exit rules add up.
-/

namespace RelaySnapshot.Descriptor

open Text

inductive ReadError where
  | missing (keyword : Keyword)
  | malformed (keyword : Keyword) (arguments : String)
  | fingerprint (cause : Fingerprint.Invalid)
  /-- The block that begins at the given line of a document is not closed. -/
  | unterminated (line : Nat)
  deriving DecidableEq, Repr

def ReadError.message : ReadError → String
  | .missing keyword => s!"descriptor has no {quoted keyword.text} line"
  | .malformed keyword arguments =>
    let line := keyword.text ++ " " ++ arguments
    s!"malformed {quoted keyword.text} line: {quoted line}"
  | .fingerprint cause => s!"core error: {cause.message}"
  | .unterminated line => s!"descriptor starting at line {line} has no closing signature"

structure Draft where
  router : Option (String × Address) := none
  published : Option Instant := none
  fingerprint : Option Fingerprint := none
  bandwidth : Bandwidth := {}
  platform : String := ""
  version : String := ""
  hibernating : Bool := false
  exitPolicy : ExitPolicy := []
  family : FingerprintSet := .empty

/--
The version and the system of a platform line `Tor <version> on <system>`, else all as system.
-/
def splitPlatform (arguments : Text) : Text × Text :=
  let arguments := trim arguments
  match (dropLeading? "Tor ".toList arguments).bind (cutAt " on ".toList) with
  | some (version, system) => (trim version, trim system)
  | none => ([], arguments)

def readRouter? (arguments : Text) : Option (String × Address) :=
  match words arguments with
  | nickname :: address :: _ => (Address.read? address).map (String.ofList nickname, ·)
  | _ => none

def readBandwidth? (arguments : Text) : Option Bandwidth :=
  match (words arguments).mapM (Decimal.read? (Nat.pow 2 64)) with
  | some [average, burst, observed] =>
    some ⟨.ofNat average, .ofNat burst, .ofNat observed⟩
  | _ => none

def readFlag? (arguments : Text) : Option Bool :=
  match trim arguments with
  | ['1'] => some true
  | ['0'] => some false
  | _ => none

def Draft.add (draft : Draft) (keyword : Keyword) (arguments : Text) : Except ReadError Draft :=
  let malformed := ReadError.malformed keyword (String.ofList arguments)
  let rule (action : ExitAction) : Except ReadError Draft :=
    let pattern := trim arguments
    if pattern.isEmpty then .error malformed
    else .ok { draft with exitPolicy := draft.exitPolicy ++ [⟨action, String.ofList pattern⟩] }
  match keyword with
  | .router =>
    if draft.router.isSome then .ok draft
    else
      match readRouter? arguments with
      | some router => .ok { draft with router := some router }
      | none => .error malformed
  | .published =>
    match Timestamp.read (trim arguments) with
    | .ok published => .ok { draft with published := some published }
    | .error _ => .error malformed
  | .fingerprint =>
    match Fingerprint.parse (String.ofList arguments) with
    | .ok fingerprint => .ok { draft with fingerprint := some fingerprint }
    | .error cause => .error (.fingerprint cause)
  | .bandwidth =>
    match readBandwidth? arguments with
    | some bandwidth => .ok { draft with bandwidth }
    | none => .error malformed
  | .platform =>
    let (version, platform) := splitPlatform arguments
    .ok { draft with version := String.ofList version, platform := String.ofList platform }
  | .hibernating =>
    match readFlag? arguments with
    | some hibernating => .ok { draft with hibernating }
    | none => .error malformed
  | .family =>
    let members := (words arguments).filterMap Fingerprint.ofFamilyToken?
    .ok { draft with family := draft.family.insertAll members }
  | .accept => rule .accept
  | .reject => rule .reject

/-- Takes a line into the draft; other keywords say nothing that a snapshot holds. -/
def Draft.addLine (draft : Draft) (line : Line) : Except ReadError Draft :=
  match Keyword.ofText? line.word with
  | some keyword => draft.add keyword line.arguments
  | none => .ok draft

def Draft.finish (draft : Draft) : Except ReadError Descriptor :=
  match draft.fingerprint, draft.router, draft.published with
  | none, _, _ => .error (.missing .fingerprint)
  | some _, none, _ => .error (.missing .router)
  | some _, some _, none => .error (.missing .published)
  | some fingerprint, some (nickname, address), some published =>
    .ok {
      fingerprint, nickname, published, address
      bandwidth := draft.bandwidth
      platform := draft.platform
      version := draft.version
      hibernating := draft.hibernating
      exitPolicy := draft.exitPolicy
      family := draft.family }

def ofLines (lines : List Text) : Except ReadError Descriptor := do
  let draft ← (keywordLines false lines).foldlM Draft.addLine ({} : Draft)
  draft.finish

def parse (s : String) : Except ReadError Descriptor :=
  ofLines (Text.lines s.toList)

end RelaySnapshot.Descriptor
