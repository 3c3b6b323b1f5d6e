import RelaySnapshot.Address.Parser
import RelaySnapshot.IoError

namespace RelaySnapshot

structure Endpoint where
  host : Text
  port : Nat
  deriving DecidableEq, Repr

namespace Endpoint

/-- Reads an endpoint; the last colon precedes the port. -/
def read (s : String) : Except IoError Endpoint :=
  let reversed := s.toList.reverse
  match reversed.dropWhile (· != ':') with
  | [] => .error .malformedEndpoint
  | _ :: host =>
    match Decimal.read? (Nat.pow 2 16) (reversed.takeWhile (· != ':')).reverse with
    | some port => .ok ⟨host.reverse, port⟩
    | none => .error .malformedPort

def withoutBrackets (host : Text) : Text :=
  match host, host.getLast? with
  | '[' :: rest, some ']' => rest.dropLast
  | _, _ => host

/-- Reads a number in base 16 after `0x`, in base 8 after another zero, or in base 10. -/
def readPart? (s : Text) : Option Nat :=
  match s with
  | '0' :: 'x' :: digits | '0' :: 'X' :: digits =>
    if digits.isEmpty then none else Hexadecimal.read? digits
  | '0' :: digits =>
    if digits.all fun c => '0' ≤ c && c ≤ '7' then
      some (digits.foldl (fun n c => 8 * n + (c.toNat - 48)) 0)
    else none
  | digits => if digits.isEmpty || !digits.all Char.isDigit then none else Decimal.value digits

/-- Whether a host consists of at most four numbers that make up 32 bits. -/
def isShortAddress (host : Text) : Bool :=
  match ((Text.split (· == '.') host).mapM readPart?).map List.reverse with
  | some (last :: others) =>
    others.length < 4 && others.all (· < 256) && last < Nat.pow 256 (4 - others.length)
  | _ => false

/-- Whether a host needs no look-up to be found. -/
def isAddress (endpoint : Endpoint) : Bool :=
  (Address.read? (withoutBrackets endpoint.host)).isSome || isShortAddress endpoint.host

end Endpoint

end RelaySnapshot
