import Accounts.Decimal.Natural
import Accounts.Net.Address
import Accounts.Text.Pieces

/-!
# Addresses of stores

A store's address names a scheme, a host with an optional port, and a path.

* `Url`: the parts that a store looks at;
* `UrlFault`: why a text is no address;
* `Url.parse`: reading.
-/

namespace Accounts.Net

/-- The parts of an address. The host is missing if it is empty or there is no place for it. -/
structure Url where
  scheme : String
  host : Option String
  port : Option Nat
  path : String
  query : String

/-- Why a text is no address. -/
inductive UrlFault
  | relative
  | emptyHost
  | hostCharacter
  | ipv6
  | port
  deriving DecidableEq

/-- The wording of a fault. -/
def UrlFault.message : UrlFault → String
  | .relative => "relative URL without a base"
  | .emptyHost => "empty host"
  | .hostCharacter => "invalid domain character"
  | .ipv6 => "invalid IPv6 address"
  | .port => "invalid port number"

namespace Url

/-- The scheme at the start of an address, in lower case, and what follows its colon. -/
def scheme? (cs : List Char) : Option (String × List Char) :=
  let inScheme (c : Char) : Bool := c.isAlphanum || c == '+' || c == '-' || c == '.'
  match cs.takeWhile inScheme, cs.dropWhile inScheme with
  | c :: name, ':' :: rest =>
    if c.isAlpha then some (String.ofList ((c :: name).map Char.toLower), rest) else none
  | _, _ => none

/-- Characters that no host has. -/
def isForbiddenInHost (c : Char) : Bool :=
  "\x00\t\n\r #/<>?@[\\]^|".toList.contains c

/-- The schemes whose addresses cannot do without a host. -/
def needsHost (scheme : String) : Bool := ["http", "https", "ws", "wss", "ftp"].contains scheme

/-- The host at the start of a list, and what follows it. -/
def readHost (cs : List Char) : Except UrlFault (String × List Char) :=
  match cs with
  | '[' :: inner =>
    match Text.cutFirst? ']' inner with
    | some (address, rest) =>
      match Ip.parse? address with
      | some (.v6 _) => .ok (String.ofList ('[' :: address ++ [']']), rest)
      | _ => .error .ipv6
    | none => .error .ipv6
  | cs =>
    let name := cs.takeWhile (· ≠ ':')
    if name.any isForbiddenInHost then .error .hostCharacter
    else .ok (String.ofList name, cs.dropWhile (· ≠ ':'))

/-- The port after a host. -/
def readPort : List Char → Except UrlFault (Option Nat)
  | [] => .ok none
  | [':'] => .ok none
  | ':' :: digits =>
    match (Decimal.nat? digits).filter (· < 65536) with
    | some n => .ok (some n)
    | none => .error .port
  | _ => .error .port

/-- What follows the name and the word of a user. -/
def afterUser (cs : List Char) : List Char :=
  match Text.cutLast? '@' cs with
  | some (_, rest) => rest
  | none => cs

/-- Path and query of the rest of an address. -/
def pathAndQuery (cs : List Char) : String × String :=
  let whole := cs.takeWhile (· ≠ '#')
  (String.ofList (whole.takeWhile (· ≠ '?')), String.ofList ((whole.dropWhile (· ≠ '?')).drop 1))

/-- The address that a text writes. Blanks and controls around it do not count. -/
def parse (s : String) : Except UrlFault Url := do
  let outside (c : Char) : Bool := c.toNat ≤ 0x20
  let cs := ((s.toList.dropWhile outside).reverse.dropWhile outside).reverse
  match scheme? (cs.filter fun c => c ≠ '\t' ∧ c ≠ '\n' ∧ c ≠ '\r') with
  | none => throw .relative
  | some (scheme, '/' :: '/' :: rest) =>
    let inAuthority (c : Char) : Bool := c ≠ '/' && c ≠ '?' && c ≠ '#'
    let (name, after) ← readHost (afterUser (rest.takeWhile inAuthority))
    if name = "" ∧ (needsHost scheme ∨ after ≠ []) then throw .emptyHost
    let (path, query) := pathAndQuery (rest.dropWhile inAuthority)
    return ⟨scheme, if name = "" then none else some name, ← readPort after, path, query⟩
  | some (scheme, rest) =>
    if needsHost scheme then throw .emptyHost
    let (path, query) := pathAndQuery rest
    return ⟨scheme, none, none, path, query⟩

end Url

end Accounts.Net
