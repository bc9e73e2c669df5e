import Accounts.Decimal.Reading
import Accounts.Settings.KeyPath
import Accounts.Text.Pieces

/-!
# Settings from the environment

Variables whose names start with `ACCOUNT__`, in any case, are settings; two underscores stand
between the steps of a key.

* `Scalar.ofText`: a value as the kind that its text looks like;
* `Environment.key?`: the key of a variable;
* `Environment.settings`: the settings of an environment.
-/

namespace Accounts.Settings

/-- The value that a text looks like: a truth value in any case, an integer, a float, else the text.
-/
def Scalar.ofText (s : String) : Scalar :=
  let low := Text.lowercase s
  if low = "true" then .bool true
  else if low = "false" then .bool false
  else
    match Decimal.integer? s, Decimal.float? s with
    | some n, _ => .integer n
    | none, some x => .float x
    | none, none => .text s

namespace Environment

/-- The start of the variables that are settings, in lower case. -/
def start : String := "account__"

/-- A point in place of every two underscores. -/
def dotted : List Char → List Char
  | '_' :: '_' :: cs => '.' :: dotted cs
  | c :: cs => c :: dotted cs
  | [] => []

/-- The key of a variable, if it is a setting. -/
def key? (name : String) : Option String :=
  (Text.dropStart? start.toList (Text.lowercase name).toList).map fun cs =>
    String.ofList (dotted cs)

/-- The name of this layer in messages. -/
def origin : String := "the environment"

/-- The settings of an environment. -/
def settings (environment : List (String × String)) : Tree.Entries :=
  environment.filterMap fun (name, value) =>
    (key? name).map fun key => (key, .scalar (Scalar.ofText value) (some origin))

end Environment

end Accounts.Settings
