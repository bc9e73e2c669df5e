import Accounts.Decimal.Natural
import Accounts.Text.Digit

/-!
# Addresses of the network

Internet addresses of both versions and the socket addresses made of them, read and written in their
usual forms.

* `Ipv4`, `Ipv6`, `Ip`: addresses;
* `Ip.parse?`, `Ip.text`;
* `SocketAddress`, `SocketAddress.parse?`, `SocketAddress.text`.
-/

namespace Accounts.Net

/-- An address of four bytes. -/
structure Ipv4 where
  bytes : List Nat

/-- An address of eight groups of sixteen bits. -/
structure Ipv6 where
  groups : List Nat

/-- An address of either version. -/
inductive Ip
  | v4 (a : Ipv4)
  | v6 (a : Ipv6)

/-- The digits of a base at the start of a list, and the rest. -/
def spanDigits (base : Nat) (cs : List Char) : List Nat × List Char :=
  let ds := cs.takeWhile fun c => (Text.digitIn? base c).isSome
  (ds.filterMap (Text.digitIn? base), cs.drop ds.length)

/-- A number below `bound` at the start of a list. -/
def number? (base bound : Nat) (cs : List Char) : Option (Nat × List Char) :=
  match spanDigits base cs with
  | ([], _) => none
  | (ds, rest) =>
    let n := Text.valueIn base ds
    if n < bound then some (n, rest) else none

/-- One character that must stand at the start of a list. -/
def expect? (c : Char) : List Char → Option (List Char)
  | d :: cs => if d = c then some cs else none
  | [] => none

namespace Ipv4

/-- A byte in decimal without leading zeros. -/
def byte? (cs : List Char) : Option (Nat × List Char) :=
  match spanDigits 10 cs with
  | ([], _) => none
  | (0 :: _ :: _, _) => none
  | (ds, rest) =>
    let n := ds.foldl (fun n d => n * 10 + d) 0
    if n < 256 then some (n, rest) else none

/-- An address at the start of a list. -/
def read? (cs : List Char) : Option (Ipv4 × List Char) := do
  let (a, cs) ← byte? cs
  let (b, cs) ← byte? (← expect? '.' cs)
  let (c, cs) ← byte? (← expect? '.' cs)
  let (d, cs) ← byte? (← expect? '.' cs)
  some (⟨[a, b, c, d]⟩, cs)

/-- The text of an address. -/
def chars (a : Ipv4) : List Char :=
  ['.'].intercalate (a.bytes.map Decimal.digits)

/-- The two groups of sixteen bits. -/
def groups (a : Ipv4) : List Nat :=
  match a.bytes with
  | [a, b, c, d] => [a * 256 + b, c * 256 + d]
  | _ => []

end Ipv4

namespace Ipv6

/-- Up to four digits of base sixteen. -/
def group? (cs : List Char) : Option (Nat × List Char) :=
  let (ds, _) := spanDigits 16 cs
  if ds = [] ∨ 4 < ds.length then none
  else some (ds.foldl (fun n d => n * 16 + d) 0, cs.drop ds.length)

/-- The text after the colon that parts a group from the one before. -/
def afterColon? (first : Bool) (cs : List Char) : Option (List Char) :=
  if first then some cs else expect? ':' cs

/-- At most `room` groups with colons between them; an address of four bytes may stand for the last
two. Tells whether one did. -/
def readGroups (first : Bool) : (room : Nat) → List Char → List Nat × Bool × List Char
  | 0, cs => ([], false, cs)
  | room + 1, cs =>
    let embedded := if room = 0 then none else (afterColon? first cs).bind Ipv4.read?
    match embedded with
    | some (a, rest) => (a.groups, true, rest)
    | none =>
      match (afterColon? first cs).bind group? with
      | some (g, rest) =>
        let (gs, v4, rest) := readGroups false room rest
        (g :: gs, v4, rest)
      | none => ([], false, cs)

/-- An address at the start of a list: eight groups, or fewer with two colons for one or more groups
of zero. -/
def read? (cs : List Char) : Option (Ipv6 × List Char) :=
  let (head, v4, rest) := readGroups true 8 cs
  if head.length = 8 then some (⟨head⟩, rest)
  else if v4 then none
  else do
    let rest ← expect? ':' (← expect? ':' rest)
    let (tail, _, rest) := readGroups true (7 - head.length) rest
    some (⟨head ++ List.replicate (8 - head.length - tail.length) 0 ++ tail⟩, rest)

/-- The length of the run of zeros at the start of a list. -/
def zeros (gs : List Nat) : Nat := (gs.takeWhile (· == 0)).length

/-- The start and the length of the first longest run of zeros from place `place` on. -/
def longestRun (place : Nat) : List Nat → Nat × Nat
  | [] => (place, 0)
  | g :: gs =>
    let here := zeros (g :: gs)
    let (start, length) := longestRun (place + 1) gs
    if length ≤ here then (place, here) else (start, length)

/-- Groups with colons between them. -/
def groupChars (gs : List Nat) : List Char := [':'].intercalate (gs.map (Nat.toDigits 16))

/-- The text of an address: the first longest run of two or more zeros is left out, and an address
that stands for one of four bytes ends in it. -/
def chars (a : Ipv6) : List Char :=
  match a.groups with
  | [0, 0, 0, 0, 0, 0xFFFF, g, h] =>
    [':', ':', 'f', 'f', 'f', 'f', ':'] ++
      Ipv4.chars ⟨[g / 256, g % 256, h / 256, h % 256]⟩
  | gs =>
    let (start, length) := longestRun 0 gs
    if 1 < length then
      groupChars (gs.take start) ++ [':', ':'] ++ groupChars (gs.drop (start + length))
    else groupChars gs

end Ipv6

/-- The address of a text. -/
def Ip.parse? (cs : List Char) : Option Ip :=
  match Ipv4.read? cs with
  | some (a, []) => some (.v4 a)
  | _ =>
    match Ipv6.read? cs with
    | some (a, []) => some (.v6 a)
    | _ => none

/-- An address with a port; the sixth version has a zone. -/
inductive SocketAddress
  | v4 (address : Ipv4) (port : Nat)
  | v6 (address : Ipv6) (zone port : Nat)

namespace SocketAddress

/-- A colon and a port. -/
def port? (cs : List Char) : Option (Nat × List Char) := do number? 10 65536 (← expect? ':' cs)

/-- A percent sign and the number of a zone, or nothing. -/
def zone? : List Char → Option (Nat × List Char)
  | '%' :: cs => number? 10 UInt32.size cs
  | cs => some (0, cs)

/-- Reads the form of the fourth version. -/
def parseV4? (cs : List Char) : Option SocketAddress := do
  let (a, cs) ← Ipv4.read? cs
  let (p, cs) ← port? cs
  if cs = [] then some (.v4 a p) else none

/-- Reads the form of the sixth version, with the address in brackets. -/
def parseV6? (cs : List Char) : Option SocketAddress := do
  let (a, cs) ← Ipv6.read? (← expect? '[' cs)
  let (z, cs) ← zone? cs
  let (p, cs) ← port? (← expect? ']' cs)
  if cs = [] then some (.v6 a z p) else none

/-- The socket address of a text. -/
def parse? (s : String) : Option SocketAddress :=
  (parseV4? s.toList).or (parseV6? s.toList)

/-- The wording for a text that is no socket address. -/
def fault : String := "invalid socket address syntax"

/-- The port. -/
def port : SocketAddress → Nat
  | .v4 _ p => p
  | .v6 _ _ p => p

/-- The address is of the sixth version. -/
def isV6 : SocketAddress → Bool
  | .v4 _ _ => false
  | .v6 _ _ _ => true

/-- The text of a socket address. -/
def text : SocketAddress → String
  | .v4 a p => String.ofList (a.chars ++ ':' :: Decimal.digits p)
  | .v6 a z p =>
    let zone := if z = 0 then [] else '%' :: Decimal.digits z
    String.ofList ('[' :: a.chars ++ zone ++ ']' :: ':' :: Decimal.digits p)

end SocketAddress

end Accounts.Net
