import RelaySnapshot.Address.Parser
import RelaySnapshot.Address.Printer
import RelaySnapshot.Endpoint
import RelaySnapshot.IoError
import RelaySnapshot.Record
import RelaySnapshot.Text.Utf8

/-!
# Whois

A registry that knows which autonomous system announces an address. It is asked for many addresses
at once and answers with a banner and one line `number | address | name` for each of them.
-/

namespace RelaySnapshot.Whois

open Text

structure Answer where
  number : UInt32
  name : String
  address : Address
  deriving DecidableEq

inductive Error where
  | io (cause : IoError)
  | timeout (endpoint : String) (milliseconds : Nat)
  deriving DecidableEq, Repr

/-- A span of time in its largest unit, seconds or milliseconds, with a fraction if there is one. -/
def writeSpan (milliseconds : Nat) : String :=
  let seconds := milliseconds / 1000
  let rest := milliseconds % 1000
  if seconds = 0 then s!"{rest}ms"
  else if rest = 0 then s!"{seconds}s"
  else
    let digits := Decimal.writePadded 3 rest
    let fraction := String.ofList (digits.reverse.dropWhile (· == '0')).reverse
    s!"{seconds}.{fraction}s"

def Error.message : Error → String
  | .io cause => s!"whois i/o error: {cause.message}"
  | .timeout endpoint milliseconds =>
    let after := writeSpan milliseconds
    s!"whois request to {endpoint} timed out after {after}"

/-! ### Queries and answers -/

/-- The query for a batch of addresses, one on each line between `begin` and `end`. -/
def query (batch : List Address) : Text :=
  "begin\n".toList ++ batch.flatMap (fun address => address.write ++ ['\n']) ++ "end\n".toList

inductive Line where
  | announced (answer : Answer)
  | unannounced (address : Address)
  | other

def readLine (line : Text) : Line :=
  match (split (· == '|') line).map trim with
  | [number, address, name] =>
    match Address.read? address with
    | none => .other
    | some address =>
      match Decimal.read? (Nat.pow 2 32) number with
      | some number => .announced ⟨.ofNat number, String.ofList name, address⟩
      | none => .unannounced address
  | _ => .other

/--
The answers in lines, given the address of the last one. A line for the same address once more says
nothing new.
-/
def answers : (last : Option Address) → List Text → List Answer
  | _, [] => []
  | last, line :: rest =>
    match readLine line with
    | .announced answer =>
      if last = some answer.address then answers last rest
      else answer :: answers (some answer.address) rest
    | _ => answers last rest

/-- The lines between the banner and the text after the last line feed. -/
def readResponse (response : Text) : List Answer :=
  answers none (Text.lines response).tail.dropLast

/-! ### Exchanges -/

inductive Reply where
  | data (bytes : List UInt8)
  | silence

/-- A network: who can be connected to, and what the `n`-th query of a lookup is answered. -/
structure Network where
  connect : Endpoint → Except IoError Unit
  reply : (n : Nat) → (query : Text) → Reply

structure Registry where
  endpoint : String
  batchSize : Nat
  /-- In milliseconds. -/
  timeout : Nat

/-- Batches of `size` items; a size of zero counts as one. -/
def batches {α : Type} (size : Nat) (items : List α) : List (List α) :=
  if items.isEmpty then []
  else items.take (max size 1) :: batches size (items.drop (max size 1))
termination_by items.length
decreasing_by
  cases items with
  | nil => simp_all
  | cons => simp only [List.length_drop, List.length_cons]; omega

def Registry.connect (registry : Registry) (network : Network) : Except Error Unit := do
  let endpoint ← (Endpoint.read registry.endpoint).mapError .io
  (network.connect endpoint).mapError .io

def Registry.receive (registry : Registry) : Reply → Except Error (List Answer)
  | .silence => .error (.timeout registry.endpoint registry.timeout)
  | .data bytes =>
    match Utf8.decode? bytes with
    | some response => .ok (readResponse response)
    | none => .error (.io .notText)

/-- What happens on the network: the queries that are sent, in their order, and what comes of it. -/
structure Conversation where
  sent : List Text
  result : Except Error (List Answer)

/-- Asks for batches one after the other, each on a connection of its own, until one fails. -/
def Registry.converse (registry : Registry) (network : Network) :
    (n : Nat) → List (List Address) → Conversation
  | _, [] => ⟨[], .ok []⟩
  | n, batch :: rest =>
    match registry.connect network with
    | .error e => ⟨[], .error e⟩
    | .ok () =>
      match registry.receive (network.reply n (query batch)) with
      | .error e => ⟨[query batch], .error e⟩
      | .ok answers =>
        let later := registry.converse network (n + 1) rest
        ⟨query batch :: later.sent, later.result.map (answers ++ ·)⟩

def withoutRepeats : List Answer → List Answer
  | [] => []
  | [a] => [a]
  | a :: b :: rest =>
    if a.address = b.address then withoutRepeats (a :: rest)
    else a :: withoutRepeats (b :: rest)
termination_by l => l.length

def Registry.conversation (registry : Registry) (network : Network) (addresses : List Address) :
    Conversation :=
  registry.converse network 0 (batches registry.batchSize addresses)

def Registry.lookup (registry : Registry) (network : Network) (addresses : List Address) :
    Except Error (List Answer) :=
  (registry.conversation network addresses).result.map withoutRepeats

/-- A network on which nobody can be reached. Without it, no name but that of the host is known. -/
def Network.unreachable : Network where
  connect endpoint :=
    if endpoint.isAddress || endpoint.host = "localhost".toList then .error .networkUnreachable
    else .error .unknownHost
  reply _ _ := .silence

end RelaySnapshot.Whois
