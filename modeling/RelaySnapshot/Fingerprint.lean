import RelaySnapshot.Text.Quoted

namespace RelaySnapshot

structure Fingerprint where
  value : Nat
  value_lt : value < Nat.pow 16 40 := by decide
  deriving DecidableEq, Repr

namespace Fingerprint

structure Invalid where
  text : String
  deriving DecidableEq, Repr

def Invalid.message (e : Invalid) : String :=
  s!"invalid fingerprint: {Text.quoted e.text}"

instance : LT Fingerprint := ⟨fun a b => a.value < b.value⟩

instance (a b : Fingerprint) : Decidable (a < b) :=
  inferInstanceAs (Decidable (a.value < b.value))

theorem lt_iff {a b : Fingerprint} : a < b ↔ a.value < b.value :=
  Iff.rfl

theorem eq_of_not_lt {a b : Fingerprint} (h : ¬a < b) (h' : ¬b < a) : a = b := by
  cases a
  cases b
  simp only [lt_iff, mk.injEq] at *
  omega

/-- Reads forty digits; blanks are passed over. -/
def ofText? (s : Text) : Option Fingerprint :=
  match (s.filter (!Text.isBlank ·)).mapM Hexadecimal.digitValue? with
  | none => none
  | some digits =>
    if h : digits.length = 40 then
      some ⟨Hexadecimal.value digits, h ▸ Hexadecimal.value_lt digits⟩
    else none

def parse (s : String) : Except Invalid Fingerprint :=
  match ofText? s.toList with
  | some fingerprint => .ok fingerprint
  | none => .error ⟨s⟩

/--
Reads a member of a family line: a dollar sign and a fingerprint, and after it perhaps a nickname
set off by `=` or `~`. A nickname alone names nobody.
-/
def ofFamilyToken? : Text → Option Fingerprint
  | '$' :: rest => ofText? (rest.takeWhile fun c => c != '=' && c != '~')
  | _ => none

def upperHexDigit (d : Nat) : Char :=
  if d < 10 then Char.ofNat (48 + d) else Char.ofNat (55 + d)

/-- The last `count` hexadecimal digits of `n`. -/
def digits : (count n : Nat) → Text
  | 0, _ => []
  | count + 1, n => digits count (n / 16) ++ [upperHexDigit (n % 16)]

def write (fingerprint : Fingerprint) : Text :=
  digits 40 fingerprint.value

def text (fingerprint : Fingerprint) : String :=
  String.ofList fingerprint.write

instance : ToString Fingerprint := ⟨text⟩

end Fingerprint

end RelaySnapshot
