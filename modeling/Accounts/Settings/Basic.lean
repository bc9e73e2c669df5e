import Accounts.Text.Blank
import Accounts.Decimal.Natural

/-!
# Settings

The settings of the service in five sections, their built-in values, and what must hold before the
service may start.

* `ServerSettings`, `DatabaseSettings`, `RedisSettings`, `AuthSettings`, `LogSettings`, `Settings`;
* `SettingsFault`: why settings are refused;
* `Settings.validate`: the check before the start;
* `validate_eq_ok_iff`: exactly which settings pass.
-/

namespace Accounts

/-- Where the service listens. -/
structure ServerSettings where
  host : String := "127.0.0.1"
  httpPort : Nat := 8080
  grpcPort : Nat := 50051
  requestTimeoutSecs : Nat := 30

/-- The store of users; without a URL it is in memory. -/
structure DatabaseSettings where
  url : Option String := none
  maxConnections : Nat := 10
  connectTimeoutSecs : Nat := 10
  runMigrations : Bool := true

/-- The store of revoked tokens; without a URL it is in memory. -/
structure RedisSettings where
  url : Option String := none
  keyStart : String := "jwt:blacklist:"
  opTimeoutMs : Nat := 2000

/-- The most hours that a token may live. -/
def maxLifetimeHours : Int := 24 * 365

/-- How tokens are signed and who may register. -/
structure AuthSettings where
  secret : String := ""
  lifetimeHours : Int := 24
  issuer : String := "account-service"
  audience : String := "account-clients"
  registrationCode : Option String := none

/-- What is logged and how. -/
structure LogSettings where
  level : String := "info"
  format : String := "pretty"

/-- All settings. -/
structure Settings where
  server : ServerSettings := {}
  database : DatabaseSettings := {}
  redis : RedisSettings := {}
  auth : AuthSettings := {}
  logging : LogSettings := {}

/-- Why settings are refused. -/
inductive SettingsFault
  | secretMissing
  | lifetimeNotPositive
  | lifetimeTooLong
  | timeoutNotPositive
  | brokenFile
  | unreadable (reason : String)
  deriving DecidableEq

/-- The reason of a refusal. -/
def SettingsFault.reason : SettingsFault → String
  | .secretMissing => "auth.jwt_secret (ACCOUNT__AUTH__JWT_SECRET) must be set"
  | .lifetimeNotPositive => "auth.token_lifetime_hours must be positive"
  | .lifetimeTooLong =>
    "auth.token_lifetime_hours must not exceed " ++ Decimal.ofInt maxLifetimeHours
  | .timeoutNotPositive => "redis.op_timeout_ms must be positive"
  | .brokenFile => "the file is not TOML"
  | .unreadable reason => reason

/-- The wording of a refusal. -/
def SettingsFault.message (f : SettingsFault) : String := "설정 에러: " ++ f.reason

namespace Settings

/-- The check before the start. -/
def validate (s : Settings) : Except SettingsFault Unit :=
  if Text.trimmed s.auth.secret = "" then .error .secretMissing
  else if s.auth.lifetimeHours ≤ 0 then .error .lifetimeNotPositive
  else if maxLifetimeHours < s.auth.lifetimeHours then .error .lifetimeTooLong
  else if s.redis.opTimeoutMs = 0 then .error .timeoutNotPositive
  else .ok ()

theorem validate_eq_ok_iff (s : Settings) :
    s.validate = .ok () ↔
      Text.trimmed s.auth.secret ≠ "" ∧ 1 ≤ s.auth.lifetimeHours ∧
        s.auth.lifetimeHours ≤ maxLifetimeHours ∧ s.redis.opTimeoutMs ≠ 0 := by
  unfold validate
  split
  · simp_all
  split
  · simp only [reduceCtorEq, false_iff]; omega
  split
  · simp only [reduceCtorEq, false_iff]; omega
  split
  · simp_all
  · simp only [true_iff]
    refine ⟨by assumption, by omega, by omega, by assumption⟩

end Settings

end Accounts
