import Accounts.Json.Value
import Accounts.Log.Filter
import Accounts.Log.Format
import Accounts.Time.Timestamp

/-!
# Starting the log

The log starts once. Its filter comes from the environment if there is one that can be read, and
from the settings otherwise; the first event says that it was started.

* `LogSetup.filter`: the filter;
* `LogSetup.start`: whether the first event passes, or why the log does not start;
* `LogSetup.compactLine`, `LogSetup.jsonLine`: the first event as a line;
* **`start_of_running`**: a log that runs is not started again.
-/

namespace Accounts

/-- Why the log does not start. -/
inductive LogFault
  | filter (fault : FilterFault)
  | running
  deriving DecidableEq

/-- The wording of a fault. -/
def LogFault.message : LogFault → String
  | .filter fault => fault.message
  | .running => "a global default trace dispatcher has already been set"

/-- Where the first event comes from. -/
def startTarget : String := "account_core::logging"

/-- What the first event says. -/
def startMessage : String := "Logging initialized"

/-- The first event. -/
def startEvent : LogEvent := ⟨startTarget, .info, ["message", "format", "level"]⟩

/-- A time with six digits after the second. -/
def Timestamp.microText (t : Timestamp) : String :=
  let second := Timestamp.civilChars { t with nanos := 0 }
  String.ofList (second ++ '.' :: Decimal.padded 6 (t.nanos / 1000) ++ ['Z'])

namespace LogSetup

variable (s : LogSetup)

/-- The filter: that of the environment if it can be read, otherwise that of the level. -/
def filter (environment : Option String) : Except FilterFault LogFilter :=
  match environment.map LogFilter.parse with
  | some (.ok f) => .ok f
  | _ => LogFilter.parse s.level

/-- Starts the log: whether the first event passes, or why the log does not start. -/
def start (environment : Option String) (running : Bool) : Except LogFault Bool :=
  match s.filter environment with
  | .error f => .error (.filter f)
  | .ok f => if running then .error .running else .ok (f.enables startEvent)

/-- The first event as a line of text. -/
def compactLine (now : Timestamp) : String :=
  let target := if s.withTarget then startTarget ++ ": " else ""
  now.microText ++ "  INFO " ++ target ++ startMessage ++
    " format=" ++ s.format.name ++ " level=" ++ s.level

/-- The first event as a JSON value, without the place in the program. -/
def jsonLine (now : Timestamp) : List (String × Json) :=
  [("timestamp", .string now.microText), ("level", .string "INFO"),
    ("fields", .object [("message", .string startMessage), ("format", .string s.format.name),
      ("level", .string s.level)])] ++
    if s.withTarget then [("target", .string startTarget)] else []

/-- **A log that runs is not started again.** -/
theorem start_of_running (environment : Option String) (b : Bool) :
    s.start environment true ≠ .ok b := by
  unfold start
  split <;> simp

end LogSetup

end Accounts
