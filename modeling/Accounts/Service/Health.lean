import Accounts.Http.Response
import Accounts.Service.Basic

/-!
# The health of the service

* `ComponentHealth`: how a store is;
* `Service.uptime`: the whole seconds since the start;
* `Service.healthReport`: the response; without users the service is not ready, without the list of
  revoked tokens it is.
-/

namespace Accounts

/-- How a store is; a store in memory is not configured. -/
inductive ComponentHealth
  | up
  | down
  | notConfigured
  deriving DecidableEq

namespace ComponentHealth

/-- The health of a store by its name and whether it works. -/
def ofStore (backend : String) (works : Bool) : ComponentHealth :=
  if backend = "memory" then .notConfigured else if works then .up else .down

/-- The JSON form. -/
def json : ComponentHealth → Json
  | .up => .object [("status", .string "up")]
  | .down => .object [("status", .string "down"), ("message", .string "연결 실패")]
  | .notConfigured =>
    .object [("status", .string "not_configured"), ("message", .string "in-memory fallback")]

end ComponentHealth

namespace Service

variable (service : Service)

/-- The whole seconds since the start. -/
def uptime (now : Timestamp) : Int :=
  let nanos (t : Timestamp) : Int := t.seconds * 1000000000 + t.nanos
  Int.tdiv (nanos now - nanos service.startedAt) 1000000000

/-- The response about the service's health. -/
def healthReport (now : Timestamp) (st : State) : Response :=
  let database := ComponentHealth.ofStore st.users.backend st.users.isHealthy
  let redis := ComponentHealth.ofStore st.revocations.backend st.revocations.isHealthy
  let degraded := database = .down ∨ redis = .down
  .json (if database = .down then 503 else 200) (.object [
    ("status", .string (if degraded then "degraded" else "healthy")),
    ("version", .string version), ("uptime_secs", .integer (service.uptime now)),
    ("timestamp", .string now.offsetText),
    ("components", .object [("database", database.json), ("redis", redis.json)])])

end Service

end Accounts
