import Accounts.Json.Numeral
import Accounts.Text.Digit

/-!
# Tokens of JSON text

The words and marks of a text up to the place where it is no JSON any more. A string whose escapes
or bytes are no characters is still one token: whether that matters depends on whether somebody
reads it.

* `Token`: one token; `stray` is the place where the text goes wrong;
* `Token.list`: the tokens of a text.
-/

namespace Accounts.Json

open Utf8 (Symbol)

/-- A token of JSON text. -/
inductive Token
  | leftBrace
  | rightBrace
  | leftBracket
  | rightBracket
  | colon
  | comma
  | null
  | bool (b : Bool)
  | number (n : Numeral)
  | string (s : Option String)
  | stray

/-- The value of a digit of base sixteen. -/
def hexValue? (x : Symbol) : Option Nat := x.bind Text.hexDigit?

/-- The number that four digits of base sixteen write. -/
def hexFour? : List Symbol → Option Nat
  | a :: b :: c :: d :: _ => do
    return (((← hexValue? a) * 16 + (← hexValue? b)) * 16 + (← hexValue? c)) * 16 + (← hexValue? d)
  | _ => none

/-- The second half of a pair of escapes. -/
def lowHalf? : List Symbol → Option Nat
  | some '\\' :: some 'u' :: s => do
    let n ← hexFour? s
    if 0xDC00 ≤ n ∧ n < 0xE000 then some (n - 0xDC00) else none
  | _ => none

/-- What an escape by number stands for, read after the `u`, and how many symbols it takes from the
`u` on. Half of a pair stands for nothing. -/
def numberEscape? (s : List Symbol) : Option (Option Char × Nat) := do
  let n ← hexFour? s
  if 0xD800 ≤ n ∧ n < 0xDC00 then
    match lowHalf? (s.drop 4) with
    | some low => some (some (Char.ofNat (0x10000 + (n - 0xD800) * 1024 + low)), 11)
    | none => some (none, 5)
  else if 0xDC00 ≤ n ∧ n < 0xE000 then some (none, 5)
  else some (some (Char.ofNat n), 5)

/-- What an escape stands for, read after its backslash, and how many symbols it takes. -/
def escape? : List Symbol → Option (Option Char × Nat)
  | some c :: s =>
    if c = '"' then some (some '"', 1)
    else if c = '\\' then some (some '\\', 1)
    else if c = '/' then some (some '/', 1)
    else if c = 'b' then some (some '\x08', 1)
    else if c = 'f' then some (some '\x0c', 1)
    else if c = 'n' then some (some '\n', 1)
    else if c = 'r' then some (some '\r', 1)
    else if c = 't' then some (some '\t', 1)
    else if c = 'u' then numberEscape? s
    else none
  | _ => none

/-- The rest of a string after its first quote, once `skip` symbols are passed over: its text, if
every part of it stands for a character, and what follows the last quote. -/
def scanString : (skip : Nat) → (acc : List Char) → (readable : Bool) → List Symbol →
    Option (Option String × List Symbol)
  | _, _, _, [] => none
  | skip + 1, acc, readable, _ :: s => scanString skip acc readable s
  | 0, acc, _, none :: s => scanString 0 acc false s
  | 0, acc, readable, some c :: s =>
    if c = '"' then some (if readable then some (String.ofList acc.reverse) else none, s)
    else if c = '\\' then
      match escape? s with
      | some (some e, used) => scanString used (e :: acc) readable s
      | some (none, used) => scanString used acc false s
      | none => none
    else if c.toNat < 0x20 then none
    else scanString 0 (c :: acc) readable s

/-- What follows a given word. -/
def scanWord? (word : List Char) (s : List Symbol) : Option (List Symbol) :=
  if word.map some <+: s then some (s.drop word.length) else none

/-- Space, tab, line feed and carriage return stand between tokens. -/
def isSpace (x : Symbol) : Bool :=
  x == some ' ' || x == some '\n' || x == some '\t' || x == some '\r'

namespace Token

/-- The token at the start of a text that starts with no space, and the rest. -/
def next (c : Symbol) (s : List Symbol) : Token × List Symbol :=
  match c with
  | none => (.stray, [])
  | some '{' => (.leftBrace, s)
  | some '}' => (.rightBrace, s)
  | some '[' => (.leftBracket, s)
  | some ']' => (.rightBracket, s)
  | some ':' => (.colon, s)
  | some ',' => (.comma, s)
  | some '"' =>
    match scanString 0 [] true s with
    | some (text, rest) => (.string text, rest)
    | none => (.stray, [])
  | some 'n' =>
    match scanWord? ['u', 'l', 'l'] s with
    | some rest => (.null, rest)
    | none => (.stray, [])
  | some 't' =>
    match scanWord? ['r', 'u', 'e'] s with
    | some rest => (.bool true, rest)
    | none => (.stray, [])
  | some 'f' =>
    match scanWord? ['a', 'l', 's', 'e'] s with
    | some rest => (.bool false, rest)
    | none => (.stray, [])
  | some c =>
    match Numeral.scan? (some c :: s) with
    | some (n, rest) => (.number n, rest)
    | none => (.stray, [])

/-- The tokens of a text in reverse before `acc`. Each token but the last takes a symbol, so a
budget of one more than the length of the text is enough. -/
def listRev : (budget : Nat) → (acc : List Token) → List Symbol → List Token
  | 0, acc, _ => acc
  | _, acc, [] => acc
  | budget + 1, acc, c :: s =>
    if isSpace c then listRev budget acc s
    else
      match next c s with
      | (.stray, _) => .stray :: acc
      | (t, rest) => listRev budget (t :: acc) rest

/-- The tokens of a text, up to the first place where it is no JSON. -/
def list (s : List Symbol) : List Token := (listRev (s.length + 1) [] s).reverse

end Token

end Accounts.Json
