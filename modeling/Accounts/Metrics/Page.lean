import Accounts.Decimal.Natural
import Accounts.Metrics.Counter

/-!
# The page of metrics

Each counter is a line with its name, its labels and its value; each kind of request has lines for
the classes of its durations, their sum and their count.

* `labelText`: a label's value between its quotes;
* `Metrics.lines`: the lines.
-/

namespace Accounts

/-- A label's value with escapes for quotes, backslashes and line ends. Of two backslashes, and of a
backslash before a quote, the first counts as an escape that is there already. -/
def escapedLabel (held : Bool) : List Char → List Char
  | [] => if held then ['\\', '\\'] else []
  | c :: cs =>
    if c = '\n' then ['\\', 'n'] ++ escapedLabel held cs
    else if c = '"' then ['\\', '"'] ++ escapedLabel false cs
    else if c = '\\' then (if held then ['\\', '\\'] else []) ++ escapedLabel (!held) cs
    else (if held then ['\\', '\\', c] else [c]) ++ escapedLabel false cs

/-- A label's value between its quotes. -/
def labelText (s : String) : String := String.ofList (escapedLabel false s.toList)

/-- Labels with their values. -/
abbrev Labels : Type := List (String × String)

/-- The labels of a line. -/
def Labels.text (ls : Labels) : String :=
  let each := ls.map fun (name, value) => name ++ "=\"" ++ labelText value ++ "\""
  "\x7b" ++ String.intercalate "," each ++ "\x7d"

/-- A line of the page. -/
def metricLine (name : String) (labels : Labels) (value : String) : String :=
  name ++ labels.text ++ " " ++ value

/-- The name of a place where tokens are presented. -/
def Surface.name : Surface → String
  | .http => "http"
  | .rpc => "rpc"

/-- The name of an end of a check. -/
def CheckOutcome.name : CheckOutcome → String
  | .valid => "valid"
  | .invalid => "invalid"
  | .error => "error"

/-- The name of an end of a revocation. -/
def RevokeOutcome.name : RevokeOutcome → String
  | .revoked => "revoked"
  | .error => "error"
  | .noop => "noop"

/-- The name and the labels of a counter. -/
def Counter.labelled : Counter → String × Labels
  | .request method path => ("http_requests_total", [("method", method), ("path", path)])
  | .response method path status =>
    ("http_responses_total",
      [("method", method), ("path", path), ("status", Decimal.ofNat status)])
  | .verification surface outcome =>
    ("auth_verifications_total", [("surface", surface.name), ("outcome", outcome.name)])
  | .rejection path status code =>
    ("auth_rejections_total",
      [("path", path), ("status", Decimal.ofNat status), ("code", code)])
  | .revocation outcome => ("auth_revocations_total", [("outcome", outcome.name)])

/-- The name of the durations. -/
def durationName : String := "http_request_duration_seconds"

/-- The lines of a kind of request; none without a duration. -/
def Histogram.lines (h : Histogram) (labels : Labels) : List String :=
  if h.count = 0 then []
  else
    let bucket (bound : String) (n : Nat) : String :=
      metricLine (durationName ++ "_bucket") (labels ++ [("le", bound)]) (Decimal.ofNat n)
    durationBounds.map (fun bound => bucket (Decimal.plainText bound) (h.upTo bound)) ++
      [bucket "+Inf" h.count,
        metricLine (durationName ++ "_sum") labels (Decimal.plainText h.sum),
        metricLine (durationName ++ "_count") labels (Decimal.ofNat h.count)]

namespace Metrics

/-- The lines of the durations of a kind of request. -/
def durationLines (m : Metrics) (method path : String) : List String :=
  (m.durations method path).lines [("method", method), ("path", path)]

/-- All lines of the page. -/
def lines (m : Metrics) : List String :=
  (m.counts.eraseDups.map fun c =>
      metricLine c.labelled.1 c.labelled.2 (Decimal.ofNat (m.value c))) ++
    ((m.timings.map fun t => (t.method, t.path)).eraseDups.flatMap fun (method, path) =>
      m.durationLines method path)

end Metrics

end Accounts
