import Accounts.Http.Response
import Accounts.Password.Fault
import Accounts.Token.Outcome
import Accounts.Users.Fault

/-!
# Why work on accounts fails

* `AccountFault`: the causes, with code, wording and status;
* `AccountFault.ofStore`: what a store's report means for an account;
* `AccountFault.respond`: the response; a fault of the service itself says nothing about its cause.
-/

namespace Accounts

/-- Why work on an account fails. -/
inductive AccountFault
  | validation (text : String)
  | invalidRegistrationCode
  | conflict (what : String)
  | notFound
  | invalidCredentials
  | invalidId
  | token (fault : TokenFault)
  | password (fault : PasswordFault)
  | store (fault : UserStoreFault)

namespace AccountFault

/-- What a store's report means for an account. -/
def ofStore : UserStoreFault → AccountFault
  | .duplicate what => .conflict what
  | .notFound _ => .notFound
  | f => .store f

/-- The status of a fault. -/
def status : AccountFault → Nat
  | .validation _ => 400
  | .invalidId => 400
  | .invalidRegistrationCode => 403
  | .conflict _ => 409
  | .notFound => 404
  | .invalidCredentials => 401
  | .token _ => 500
  | .password _ => 500
  | .store _ => 500

/-- The code of a fault. -/
def code : AccountFault → String
  | .validation _ => "VALIDATION_ERROR"
  | .invalidId => "INVALID_ID"
  | .invalidRegistrationCode => "INVALID_REGISTRATION_CODE"
  | .conflict _ => "USER_EXISTS"
  | .notFound => "NOT_FOUND"
  | .invalidCredentials => "INVALID_CREDENTIALS"
  | .token _ => "INTERNAL_ERROR"
  | .password _ => "INTERNAL_ERROR"
  | .store _ => "INTERNAL_ERROR"

/-- The wording of a fault. -/
def message : AccountFault → String
  | .validation text => text
  | .invalidRegistrationCode => "Invalid registration code"
  | .conflict what => "User already exists: " ++ what
  | .notFound => "User not found"
  | .invalidCredentials => "Invalid credentials"
  | .invalidId => "Invalid user id"
  | .token f => "토큰 발급 실패: " ++ f.message
  | .password f => "비밀번호 처리 실패: " ++ f.message
  | .store f => "저장소 에러: " ++ f.message

/-- The response of a fault. -/
def respond (f : AccountFault) : Response :=
  let text := if f.status = 500 then "Internal server error" else f.message
  (ApiError.mk f.code text none).respond f.status

end AccountFault

end Accounts
