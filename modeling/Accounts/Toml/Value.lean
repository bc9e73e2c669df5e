/-!
# TOML values

* `Toml`: strings, numbers, truth values, dates and times as text, arrays and tables.
-/

namespace Accounts

/-- A TOML value. -/
inductive Toml
  | string (s : String)
  | integer (n : Int)
  | float (x : Float)
  | bool (b : Bool)
  | moment (text : String)
  | array (items : List Toml)
  | table (entries : List (String × Toml))
  deriving Inhabited

end Accounts
