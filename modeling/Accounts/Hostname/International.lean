import Accounts.Hostname.Direction
import Accounts.Hostname.Joiner
import Accounts.Hostname.Punycode
import Accounts.Hostname.Respelling
import Accounts.Text.Composition
import Accounts.Text.Mark

/-!
# International host names

A host name in any script has a form in basic characters, in which a label with other characters is
written as insertions behind `xn--`.

* `Label`, `Label.read?`: a label in both of its forms;
* `basicForm?`: the form of a host name in basic characters, if it is sound.
-/

namespace Accounts.Hostname

/-- A label of a host name: its characters, and its form in basic characters. -/
structure Label where
  plain : List Char
  basic : List Char

namespace Label

/-- What marks a label that is written as insertions. -/
def mark : List Char := ['x', 'n', '-', '-']

/-- Reads a label in either form. A label as insertions is basic throughout, and what it stands for
has no other spelling. -/
def read? (label : List Char) : Option Label :=
  match Text.dropStart? mark label with
  | some form => do
    if !label.all Punycode.isBasic then none
    let plain ← Punycode.decode? form
    if plain.all stays && Text.composed plain == plain then some ⟨plain, label⟩ else none
  | none =>
    some ⟨label, if label.all Punycode.isBasic then label else mark ++ Punycode.encode label⟩

/-- A label does not start with a mark, and its joiners fit. -/
def isSound (label : Label) : Bool :=
  !label.plain.head?.any Text.isMark && joinersFit label.plain

end Label

/-- The labels of a host name, respelled and composed. -/
def labels? (name : List Char) : Option (List Label) := do
  let spelled ← name.mapM respell?
  (Text.pieces '.' (Text.composed spelled.flatten)).mapM Label.read?

/-- The form of a host name in basic characters. -/
def basicForm? (name : List Char) : Option (List Char) := do
  let labels ← labels? name
  let turned := labels.any (·.plain.any goesLeft)
  if labels.all Label.isSound && (!turned || labels.all (keepsDirection ·.plain)) then
    return Text.joined ['.'] (labels.map (·.basic))
  else none

end Accounts.Hostname
