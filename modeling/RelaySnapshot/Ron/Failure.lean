import RelaySnapshot.Text.Decimal
import RelaySnapshot.Text.Quoted

namespace RelaySnapshot.Ron

inductive Problem where
  | endOfDocument
  | noComma
  | noColon
  | noListEnd
  | noMapEnd
  | noStructEnd
  | noOption
  | noAttribute
  | noAttributeEnd
  | noExtension (name : String)
  | notAnIdentifier
  | notAPlainIdentifier (name : String)
  | notAString
  | noStringEnd
  | notACharacter
  | notAFloat
  | underscoreInFloat
  | invalidEscape (text : String)
  | openComment
  | strayByte (b : UInt8)
  | trailingCharacters
  | tooDeep
  deriving DecidableEq, Repr

def shownCharacter (c : Char) : String :=
  let shown := match c with
    | '\x27' => ['\\', '\x27']
    | '"' => ['"']
    | c => Text.quotedChar c
  String.ofList ('\x27' :: shown ++ ['\x27'])

namespace Problem

def message : Problem → String
  | endOfDocument => "Unexpected end of RON"
  | noComma => "Expected comma"
  | noColon => "Expected colon"
  | noListEnd => "Expected closing `]`"
  | noMapEnd => "Expected closing `\x7d`"
  | noStructEnd => "Expected closing `)`"
  | noOption => "Expected option"
  | noAttribute => "Expected an `#![enable(...)]` attribute"
  | noAttributeEnd => "Expected closing `)]` after the enable attribute"
  | noExtension name => s!"No RON extension named `{name}`"
  | notAnIdentifier => "Expected identifier"
  | notAPlainIdentifier name =>
    s!"Found invalid std identifier `{name}`, try the raw identifier `r#{name}` instead"
  | notAString => "Expected string"
  | noStringEnd => "Expected end of string"
  | notACharacter => "Expected char"
  | notAFloat => "Expected float"
  | underscoreInFloat => "Unexpected underscore in float"
  | invalidEscape text => text
  | openComment => "Unclosed block comment"
  | strayByte b => "Unexpected byte " ++ shownCharacter (Char.ofNat b.toNat)
  | trailingCharacters => "Non-whitespace trailing characters"
  | tooDeep => "Exceeded recursion limit, try increasing the limit and using `serde_stacker` " ++
      "to protect against a stack overflow"

end Problem

structure Failure where
  problem : Problem
  line : Nat
  column : Nat

def Failure.report (f : Failure) : String :=
  let line := String.ofList (Decimal.write f.line)
  let column := String.ofList (Decimal.write f.column)
  s!"{line}:{column}: {f.problem.message}"

end RelaySnapshot.Ron
