import RelaySnapshot.Descriptor.Reader

/-!
# Blocks of a document

A document holds descriptors one after the other. Each begins with a router line and ends with the
line that closes its signature; what lies between two of them belongs to none. A descriptor that is
cut off, by the next one or by the end of the document, is an error at its place.
-/

namespace RelaySnapshot.Descriptor

open Text

inductive Block where
  | closed (lines : List Text)
  /-- A block that begins at the given line and has no end. -/
  | unterminated (line : Nat)
  deriving DecidableEq, Repr

def opensBlock (line : Text) : Bool :=
  startsWith "router ".toList line

def closesBlock (line : Text) : Bool :=
  line == "-----END SIGNATURE-----".toList

/-- A block whose end has not been seen: the line where it begins, and its lines, the last first. -/
structure OpenBlock where
  start : Nat
  lines : List Text

def OpenBlock.cutOff : Option OpenBlock → List Block
  | some block => [.unterminated block.start]
  | none => []

/-- The blocks of the lines from number `number` on, of which the first may lie in an open block. -/
def blocks : Option OpenBlock → (number : Nat) → List Text → List Block
  | block, _, [] => OpenBlock.cutOff block
  | block, number, line :: rest =>
    let seen := dropReturns line
    if opensBlock seen then
      OpenBlock.cutOff block ++ blocks (some ⟨number, [line]⟩) (number + 1) rest
    else
      match block with
      | none => blocks none (number + 1) rest
      | some block =>
        let block := { block with lines := line :: block.lines }
        if closesBlock seen then .closed block.lines.reverse :: blocks none (number + 1) rest
        else blocks (some block) (number + 1) rest

def Block.read : Block → Except ReadError Descriptor
  | .closed lines => ofLines lines
  | .unterminated line => .error (.unterminated line)

/-- Reads every descriptor of a document; one that is malformed does not touch the others. -/
def readAll (document : Text) : List (Except ReadError Descriptor) :=
  (blocks none 1 (Text.lines document)).map Block.read

def parseAll (document : String) : List (Except ReadError Descriptor) :=
  readAll document.toList

end RelaySnapshot.Descriptor
