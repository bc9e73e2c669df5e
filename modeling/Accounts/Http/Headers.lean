import Accounts.Text.Utf8
import Accounts.Text.Pieces

/-!
# Headers of requests

Header values are bytes. Names are compared without regard to case, and of several headers with one
name the first counts.

* `Headers.first?`: the first value under a name;
* `headerText?`: a value as text, if it is visible ASCII, spaces and tabs.
-/

namespace Accounts

/-- Names and values in the order of the request. -/
abbrev Headers : Type := List (String × Bytes)

/-- The first value under a name, given in lower case. -/
def Headers.first? (hs : Headers) (name : String) : Option Bytes :=
  (hs.find? fun h => h.1.toList.map Char.toLower == name.toList).map Prod.snd

/-- A byte that a value may expose as text. -/
def isVisible (b : UInt8) : Bool := b == 9 || (32 ≤ b && b < 127)

/-- A value as text. -/
def headerText? (value : Bytes) : Option String :=
  if value.all isVisible then some (String.ofList (value.map fun b => Char.ofNat b.toNat)) else none

end Accounts
