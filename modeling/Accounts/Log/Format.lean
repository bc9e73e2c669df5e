import Accounts.Text.Lowercase
import Accounts.Settings.Basic

/-!
# Formats of the log

* `LogFormat`, `LogFormat.parse?`: the three formats, by name in any case;
* `LogSetup.ofSettings`: how to log; an unknown format counts as the first.
-/

namespace Accounts

/-- How a line of the log looks. -/
inductive LogFormat
  | pretty
  | json
  | compact
  deriving DecidableEq

namespace LogFormat

/-- The name of a format as it is shown. -/
def name : LogFormat → String
  | .pretty => "Pretty"
  | .json => "Json"
  | .compact => "Compact"

/-- The format with a name. -/
def parse? (s : String) : Option LogFormat :=
  let word := Text.lowercase s
  if word = "pretty" then some .pretty
  else if word = "json" then some .json
  else if word = "compact" then some .compact
  else none

/-- The wording for an unknown format. -/
def fault (s : String) : String := "Unknown log format: " ++ s

end LogFormat

/-- How to log. -/
structure LogSetup where
  level : String := "info"
  format : LogFormat := .pretty
  withFile : Bool := false
  withTarget : Bool := true

/-- How the settings ask to log. -/
def LogSetup.ofSettings (s : LogSettings) : LogSetup :=
  { level := s.level, format := (LogFormat.parse? s.format).getD .pretty }

end Accounts
