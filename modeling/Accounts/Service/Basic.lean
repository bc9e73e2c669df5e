import Accounts.Metrics.Counter
import Accounts.Password.Scheme
import Accounts.Revocation.Store
import Accounts.Token.Decode
import Accounts.Users.Store

/-!
# The service and its state

* `Occasion`: when an operation takes place, and what is drawn at random for it;
* `Service`: what does not change while the service runs;
* `State`: the two stores and the metrics;
* `Service.ofSettings`: the service that the settings describe; an empty registration code is none.
-/

namespace Accounts

/-- When an operation takes place: the wall clock, and a clock in nanoseconds that only goes
forward. An operation makes at most one identifier and at most one salt. -/
structure Occasion where
  wall : Timestamp
  steady : Nat
  freshId : Uuid
  salt : Bytes

/-- What does not change while the service runs. -/
structure Service where
  signer : Signer
  registrationCode : Option String
  scheme : PasswordScheme
  startedAt : Timestamp

/-- The version of the service. -/
def Service.version : String := "0.1.0"

/-- The service that the settings describe. -/
def Service.ofSettings (s : AuthSettings) (scheme : PasswordScheme) (startedAt : Timestamp) :
    Service where
  signer := .ofSettings s
  registrationCode := s.registrationCode.filter fun code => code ≠ ""
  scheme := scheme
  startedAt := startedAt

/-- The two stores and the metrics. -/
structure State where
  users : UserStore := {}
  revocations : RevocationStore := {}
  metrics : Metrics := {}

/-- The state with one more count. -/
def State.count (st : State) (c : Counter) : State := { st with metrics := st.metrics.count c }

end Accounts
