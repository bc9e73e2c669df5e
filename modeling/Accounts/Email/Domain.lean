import Accounts.Net.Address
import Accounts.Text.Pieces

/-!
# Domains of mail addresses

A domain is a list of labels, or ends with an address of the network in brackets.

* `isLabel`: letters, digits and inner hyphens, at most 63;
* `isDomain`: labels with dots between them;
* `endsWithLiteral`: an address in brackets at the end.
-/

namespace Accounts.Email

/-- A letter in either case, as matching without regard to case has it: two characters outside of
ASCII fold to a letter. -/
def isLetter (c : Char) : Bool := c.isAlpha || c == 'ſ' || c == Char.ofNat 0x212A

/-- A letter or a digit. -/
def isAlnum (c : Char) : Bool := isLetter c || c.isDigit

/-- A label: one to 63 letters, digits and hyphens, with no hyphen at either end. -/
def isLabel (label : List Char) : Bool :=
  match label.head?, label.getLast? with
  | some a, some z =>
    isAlnum a && isAlnum z && label.length ≤ 63 && label.all fun c => isAlnum c || c == '-'
  | _, _ => false

/-- Labels with dots between them. -/
def isDomain (domain : List Char) : Bool := (Text.pieces '.' domain).all isLabel

/-- An address of the network in brackets at the end. -/
def endsWithLiteral (domain : List Char) : Bool :=
  match domain.reverse with
  | ']' :: rest =>
    match Text.cutFirst? '[' rest with
    | some (inside, _) => (Net.Ip.parse? inside.reverse).isSome
    | none => false
  | _ => false

end Accounts.Email
