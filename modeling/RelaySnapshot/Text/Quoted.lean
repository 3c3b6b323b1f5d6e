import RelaySnapshot.Text.Hexadecimal
import RelaySnapshot.Text.Unprintable

namespace RelaySnapshot.Text

def quotedChar (c : Char) : Text :=
  match c with
  | '"' => ['\\', '"']
  | '\\' => ['\\', '\\']
  | '\n' => ['\\', 'n']
  | '\r' => ['\\', 'r']
  | '\t' => ['\\', 't']
  | '\x00' => ['\\', '0']
  | c =>
    if isUnprintable c then '\\' :: 'u' :: '\x7b' :: Hexadecimal.write c.toNat ++ ['\x7d']
    else [c]

def quoted (s : String) : String :=
  String.ofList ('"' :: s.toList.flatMap quotedChar ++ ['"'])

end RelaySnapshot.Text
