namespace RelaySnapshot

abbrev Text := List Char

namespace Text

def isBlank (c : Char) : Bool :=
  let n := c.toNat
  (9 ≤ n && n ≤ 13) || n == 0x20 || n == 0x85 || n == 0xA0 || n == 0x1680 ||
    (0x2000 ≤ n && n ≤ 0x200A) || n == 0x2028 || n == 0x2029 || n == 0x202F || n == 0x205F ||
    n == 0x3000

def trimStart (s : Text) : Text :=
  s.dropWhile isBlank

def trimEnd (s : Text) : Text :=
  (s.reverse.dropWhile isBlank).reverse

def trim (s : Text) : Text :=
  trimEnd (trimStart s)

/-- The parts of a text between the characters that satisfy `cut`; there is always at least one. -/
def split (cut : Char → Bool) : Text → List Text
  | [] => [[]]
  | c :: rest =>
    if cut c then
      [] :: split cut rest
    else
      match split cut rest with
      | [] => [[c]]
      | part :: parts => (c :: part) :: parts

/-- The maximal runs of characters that are not blank. -/
def words (s : Text) : List Text :=
  (split isBlank s).filter (!·.isEmpty)

def dropLeading? : (start s : Text) → Option Text
  | [], s => some s
  | _ :: _, [] => none
  | a :: start, b :: s => if a == b then dropLeading? start s else none

/-- The parts before and after the first `mark`, if the text holds one. -/
def cutAt (mark : Text) : Text → Option (Text × Text)
  | [] => if mark.isEmpty then some ([], []) else none
  | c :: rest =>
    match dropLeading? mark (c :: rest) with
    | some after => some ([], after)
    | none => (cutAt mark rest).map fun (before, after) => (c :: before, after)

def startsWith (start s : Text) : Bool :=
  (dropLeading? start s).isSome

def lowerCaseAscii (s : Text) : Text :=
  s.map Char.toLower

def byteLength : Text → Nat
  | [] => 0
  | c :: rest => c.utf8Size + byteLength rest

def lines (s : Text) : List Text :=
  split (· == '\n') s

def dropReturns (line : Text) : Text :=
  (line.reverse.dropWhile (· == '\r')).reverse

theorem split_ne_nil (cut : Char → Bool) (s : Text) : split cut s ≠ [] := by
  cases s with
  | nil => simp [split]
  | cons c rest =>
    simp only [split]
    split
    · simp
    · split <;> simp

end Text

end RelaySnapshot
