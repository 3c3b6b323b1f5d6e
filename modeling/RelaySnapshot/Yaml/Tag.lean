import RelaySnapshot.Yaml.Cursor
import RelaySnapshot.Yaml.Token

namespace RelaySnapshot.Yaml.Reader

/-! ### Parts of tags -/

def uriWidth? (octet : Nat) : Option Nat :=
  if octet < 0x80 then some 1
  else if octet / 0x20 = 6 then some 2
  else if octet / 0x10 = 14 then some 3
  else if octet / 0x08 = 30 then some 4
  else none

/-- Reads a byte that is written as two hexadecimal digits after a percent sign. -/
def uriOctet (start : Mark) : Reader Nat := do
  if (← peek) ≠ '%' then failAt start .uriOctet
  match Hexadecimal.read? [← peekAt 1, ← peekAt 2] with
  | some octet =>
    skip 3
    return octet
  | none => failAt start .uriOctet

def uriTail (start : Mark) (code : Nat) : (count : Nat) → Reader Nat
  | 0 => return code
  | count + 1 => do
    let octet ← uriOctet start
    if octet / 0x40 ≠ 2 then failAt start .uriTrail
    uriTail start (0x100 * code + octet) count

/-- Reads a character that is written byte by byte; its number is put together of whole bytes. -/
def uriEscape (start : Mark) : Reader Char := do
  let octet ← uriOctet start
  match uriWidth? octet with
  | none => failAt start .uriLead
  | some width =>
    let code ← uriTail start octet (width - 1)
    if !code.isValidChar then failAt start .uriCode
    return Char.ofNat code

def isUriChar (c : Char) : Bool :=
  isWordChar c || ";/?:@&=+$,.!~*'()[]%".toList.contains c

def uriChars (start : Mark) : (room : Nat) → Reader Text
  | 0 => return []
  | room + 1 => do
    let c ← peek
    if !isUriChar c then return []
    if c = '%' then return (← uriEscape start) :: (← uriChars start room)
    skip 1
    return c :: (← uriChars start room)

/-- Reads the rest of a tag whose beginning has been read; a tag is not empty. -/
def tagUri (start : Mark) (head : Text) : Reader Text := do
  let more ← uriChars start ((← get).rest.length)
  if head.isEmpty && more.isEmpty then failAt start .tagUri
  return head.drop 1 ++ more

/-- Reads an exclamation mark, and a name that another one may follow. -/
def tagHandle (start : Mark) (inDirective : Bool) : Reader Text := do
  if (← peek) ≠ '!' then failAt start .tagMark
  skip 1
  let name ← takeWhile isWordChar
  if (← peek) = '!' then
    skip 1
    return '!' :: name ++ ['!']
  if inDirective && !name.isEmpty then failAt start .tagDirectiveMark
  return '!' :: name

/-! ### Tags and anchors -/

def verbatimTag (start : Mark) : Reader Tag := do
  skip 2
  let suffix ← tagUri start []
  if (← peek) ≠ '>' then failAt start .tagVerbatimEnd
  skip 1
  return ⟨[], suffix⟩

def shortTag (start : Mark) : Reader Tag := do
  let handle ← tagHandle start false
  if 2 ≤ handle.length ∧ handle.getLast? = some '!' then
    return ⟨handle, ← tagUri start []⟩
  let suffix ← tagUri start handle
  return if suffix.isEmpty then ⟨[], ['!']⟩ else ⟨['!'], suffix⟩

def tag : Reader Tag := do
  let start ← mark
  let tag ← if (← peekAt 1) = '<' then verbatimTag start else shortTag start
  if !isUnseen (← peek) then failAt start .tagEnd
  return tag

def isNameEnd (c : Char) : Bool :=
  isUnseen c || "?:,]\x7d%@`".toList.contains c

def anchorName : Reader Text := do
  let start ← mark
  skip 1
  let name ← takeWhile isWordChar
  if name.isEmpty || !isNameEnd (← peek) then failAt start .anchorName
  return name

/-! ### Directives -/

def versionNumber (start : Mark) : Reader Unit := do
  let digits ← takeWhile Char.isDigit
  if 9 < digits.length then failAt start .versionLength
  if digits.isEmpty then failAt start .versionNumber

def directiveValue (start : Mark) (name : Text) : Reader Unit := do
  match String.ofList name with
  | "YAML" =>
    skipBlanks
    versionNumber start
    if (← peek) ≠ '.' then failAt start .versionPoint
    skip 1
    versionNumber start
  | "TAG" =>
    skipBlanks
    let _ ← tagHandle start true
    skipBlanks
    let _ ← tagUri start []
    if !isUnseen (← peek) then failAt start .tagDirectiveEnd
  | _ => skipLine

def directive : Reader Unit := do
  let start ← mark
  skip 1
  let nameStart ← mark
  let name ← takeWhile isWordChar
  if name.isEmpty then failAt nameStart .directiveName
  if !isUnseen (← peek) then failAt nameStart .directiveNameEnd
  directiveValue start name
  skipTail start .directiveEnd
  let _ ← lineEnd

end RelaySnapshot.Yaml.Reader
