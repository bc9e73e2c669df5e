import Accounts.Decimal.Shortest

/-!
# Durations of requests

Durations are counted in classes by their upper bounds; each class holds those before it too.

* `durationBounds`: the bounds, in seconds;
* `Histogram`: the durations of one kind of request;
* `Histogram.upTo`, `Histogram.sum`, `Histogram.count`: what is shown of them.
-/

namespace Accounts

/-- The upper bounds of the classes, in seconds. -/
def durationBounds : List Float := [0.005, 0.01, 0.025, 0.05, 0.1, 0.25, 0.5, 1, 2.5, 5, 10]

/-- Durations in seconds, in the order in which they came. -/
structure Histogram where
  values : List Float := []

namespace Histogram

/-- How many durations are up to a bound. -/
def upTo (h : Histogram) (bound : Float) : Nat := h.values.countP fun x => x ≤ bound

/-- The sum of the durations, added in their order. -/
def sum (h : Histogram) : Float := h.values.foldl (· + ·) 0

/-- How many durations there are. -/
def count (h : Histogram) : Nat := h.values.length

end Histogram

end Accounts
