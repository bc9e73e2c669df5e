import Accounts.Metrics.Histogram

/-!
# What is counted

* `Surface`, `CheckOutcome`, `RevokeOutcome`, `Counter`: the counters with their labels;
* `Metrics`: what was counted and how long requests took;
* `Metrics.value`, `Metrics.durations`: what is shown of a counter and of a kind of request.
-/

namespace Accounts

/-- Where a token was presented. -/
inductive Surface
  | http
  | rpc
  deriving DecidableEq

/-- How the check of a token ended. -/
inductive CheckOutcome
  | valid
  | invalid
  | error
  deriving DecidableEq

/-- How the revocation of a token ended; one without time left does nothing. -/
inductive RevokeOutcome
  | revoked
  | error
  | noop
  deriving DecidableEq

/-- A counter with its labels. -/
inductive Counter
  | request (method path : String)
  | response (method path : String) (status : Nat)
  | verification (surface : Surface) (outcome : CheckOutcome)
  | rejection (path : String) (status : Nat) (code : String)
  | revocation (outcome : RevokeOutcome)
  deriving DecidableEq

/-- A duration of a kind of request. -/
structure Timing where
  method : String
  path : String
  seconds : Float

/-- Every count and every duration, in the order in which they came. -/
structure Metrics where
  counts : List Counter := []
  timings : List Timing := []

namespace Metrics

/-- Adds one to a counter. -/
def count (m : Metrics) (c : Counter) : Metrics := { m with counts := m.counts ++ [c] }

/-- Records a duration. -/
def time (m : Metrics) (t : Timing) : Metrics := { m with timings := m.timings ++ [t] }

/-- The value of a counter. -/
def value (m : Metrics) (c : Counter) : Nat := m.counts.count c

/-- The durations of a kind of request. -/
def durations (m : Metrics) (method path : String) : Histogram :=
  ⟨(m.timings.filter fun t => t.method = method ∧ t.path = path).map Timing.seconds⟩

end Metrics

end Accounts
