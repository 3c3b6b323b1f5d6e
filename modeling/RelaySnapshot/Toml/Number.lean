import RelaySnapshot.Double.Shortest
import RelaySnapshot.Text.Hexadecimal
import RelaySnapshot.Toml.Reader

namespace RelaySnapshot.Toml.Reader

def isSign (c : Char) : Bool :=
  c == '+' || c == '-'

def moreDigits (isDigit : Char → Bool) : Reader Unit := do
  let digit : Reader Unit := do let _ ← one isDigit
  let _ ← many (either digit (char '_' *> expecting ["digit"] (final digit)))

def digits : Reader Unit := do
  let _ ← one Char.isDigit
  moreDigits Char.isDigit

def decimal : Reader Text :=
  labelled "integer" <| recognized do
    let _ ← optional (one isSign)
    either (do let _ ← one fun c => c.isDigit && c != '0'; moreDigits Char.isDigit)
      (do let _ ← one Char.isDigit)

def withoutUnderscores (s : Text) : Text :=
  s.filter (· != '_')

def integerOfDecimal (numeral : Text) : Except (Option Fault) Int :=
  let (negative, digits) := match withoutUnderscores numeral with
    | '-' :: digits => (true, digits)
    | '+' :: digits => (false, digits)
    | digits => (false, digits)
  let n := Decimal.value digits
  if negative then if n ≤ Nat.pow 2 63 then .ok (-n) else .error (some .tooSmall)
  else if n < Nat.pow 2 63 then .ok n else .error (some .tooLarge)

/-- A base in which integers are written, by the mark before the digits. -/
structure Base where
  mark : String
  name : String
  radix : Nat

def bases : List Base :=
  [⟨"0x", "hexadecimal", 16⟩, ⟨"0o", "octal", 8⟩, ⟨"0b", "binary", 2⟩]

namespace Base

def isDigit (base : Base) (c : Char) : Bool :=
  (Hexadecimal.digitValue? c).any fun digit => digit.val < base.radix

def integerOf (base : Base) (digits : Text) : Except (Option Fault) Int :=
  let n := (digits.filterMap Hexadecimal.digitValue?).foldl (fun n d => base.radix * n + d.val) 0
  if n < Nat.pow 2 63 then .ok n else .error (some .tooLarge)

def integer (base : Base) : Reader Int :=
  let numeral : Reader Text := labelled (base.name ++ " integer") do
    word base.mark
    final (recognized (do let _ ← one base.isDigit; moreDigits base.isDigit))
  final (converted numeral base.integerOf)

end Base

def integer : Reader Int := do
  let s ← get
  match bases.find? fun base => Text.startsWith base.mark.toList s with
  | some base => base.integer
  | none => convertedFinally decimal integerOfDecimal

/-! ### Doubles -/

def exponent : Reader Unit := do
  let _ ← one fun c => c == 'e' || c == 'E'
  let _ ← optional (one isSign)
  final digits

def fraction : Reader Unit := do
  char '.'
  expecting ["digit"] (final digits)

def realNumeral : Reader Text :=
  recognized do
    let _ ← decimal
    either exponent (do fraction; let _ ← optional exponent)

/-- The double nearest to a numeral; one that is too large for every double is refused. -/
def doubleOf (numeral : Text) : Except (Option Fault) Double :=
  match Double.read? (withoutUnderscores numeral) with
  | some x => if x = Double.infinity then .error none else .ok x
  | none => .error none

def specialReal : Reader Double := do
  let sign ← optional (one isSign)
  let x ← either (word "inf" *> return Double.infinity)
    (word "nan" *> return Double.notANumber)
  return if sign = some '-' then x.negate else x

def real : Reader Double :=
  labelled "floating-point number" <| either (convertedFinally realNumeral doubleOf) specialReal

end RelaySnapshot.Toml.Reader
