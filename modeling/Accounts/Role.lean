import Accounts.Json.Reading
import Accounts.Text.Lowercase
import Accounts.Text.Blank

/-!
# Roles

* `Role`: what an account may do;
* `Role.parse?`: reading, with blanks around and in any case;
* `Role.read`, `Role.json`: the JSON form.
-/

namespace Accounts

/-- What an account may do. -/
inductive Role
  | admin
  | user
  deriving DecidableEq

namespace Role

instance : Inhabited Role := ⟨.user⟩

/-- The name of a role. -/
def name : Role → String
  | .admin => "admin"
  | .user => "user"

/-- The role that a text names, with blanks around and in any case. -/
def parse? (s : String) : Option Role :=
  let word := Text.lowercase (Text.trimmed s)
  if word = "admin" then some .admin
  else if word = "user" then some .user
  else none

/-- A text that names no role. -/
structure Unknown where
  text : String

/-- The wording of an unknown role. -/
def Unknown.message (e : Unknown) : String := "알 수 없는 역할: " ++ e.text

/-- The role that a text names. -/
def parse (s : String) : Except Unknown Role :=
  match parse? s with
  | some r => .ok r
  | none => .error ⟨s⟩

/-- The JSON form of a role. -/
def json (r : Role) : Json := .string r.name

/-- Reads the JSON form of a role. -/
def read : Json.Node → Json.Reading Role := Json.readNamed [("admin", .admin), ("user", .user)]

end Role

end Accounts
