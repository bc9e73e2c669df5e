import Accounts.Decimal.Reading
import Accounts.Net.Url
import Accounts.Revocation.Fault
import Accounts.Settings.Basic
import Accounts.Text.Quoted

/-!
# The store of revoked tokens in Redis

A revoked token is a key that the server forgets after a number of seconds. Each operation is one
command and the meaning of its reply.

* `RedisReply`: what a server says, or that it says nothing in time;
* `RedisStore.putCommand`, `RedisStore.containsCommand`, `RedisStore.pingCommand`: the commands;
* `RedisStore.afterPut`, `RedisStore.afterContains`, `RedisStore.afterPing`: what replies mean;
* `RedisStore.connect`: a store that the settings describe;
* **`ttlSeconds_bounds`**: the server keeps an entry at least as long as asked for, and less than a
  second longer.
-/

namespace Accounts

/-- What a server says to a command, or that it says nothing in time. -/
inductive RedisReply
  | simple (text : String)
  | bulk (text : String)
  | error (text : String)
  | integer (n : Int)
  | nil
  | silence
  deriving DecidableEq

/-- The codes of errors that have a kind of their own. -/
def redisErrorKinds : List (String × String) := [
  ("ERR", "ResponseError"), ("EXECABORT", "ExecAbortError"), ("LOADING", "BusyLoadingError"),
  ("NOSCRIPT", "NoScriptError"), ("MOVED", "Moved"), ("ASK", "Ask"), ("TRYAGAIN", "TryAgain"),
  ("CLUSTERDOWN", "ClusterDown"), ("CROSSSLOT", "CrossSlot"), ("MASTERDOWN", "MasterDown"),
  ("READONLY", "ReadOnly"), ("NOTBUSY", "NotBusy")]

namespace RedisReply

/-- The wording of an error: its first word is its code. -/
def errorText (line : String) : String :=
  let (code, detail) :=
    match Text.cutFirst? ' ' line.toList with
    | some (code, detail) => (String.ofList code, some (String.ofList detail))
    | none => (line, none)
  match redisErrorKinds.lookup code, detail with
  | some kind, some detail => "An error was signalled by the server - " ++ kind ++ ": " ++ detail
  | some kind, none => "An error was signalled by the server- " ++ kind
  | none, detail => code ++ ": " ++ detail.getD "Unknown extension error encountered"

/-- How a reply is named in messages. -/
def described : RedisReply → String
  | .simple "OK" => "ok"
  | .simple text => "simple-string(" ++ Text.quotedForMessage text ++ ")"
  | .bulk text => "bulk-string('" ++ Text.quotedForMessage text ++ "')"
  | .error text => "error(" ++ Text.quotedForMessage text ++ ")"
  | .integer n => "int(" ++ Decimal.ofInt n ++ ")"
  | .nil => "nil"
  | .silence => "nothing"

/-- The fault of a reply of another kind than the one asked for. -/
def mismatch (what : String) (r : RedisReply) : RevocationFault :=
  .unavailable ("Response was of incompatible type - TypeError: " ++ Text.quotedForMessage what ++
    " (response was " ++ r.described ++ ")")

/-- A reply as a truth value: numbers, the digits of truth values, and acknowledgement; nothing is
false. -/
def truth : RedisReply → Except RevocationFault Bool
  | .nil => .ok false
  | .integer n => .ok (n ≠ 0)
  | .simple "OK" => .ok true
  | .simple "1" => .ok true
  | .simple "0" => .ok false
  | .bulk "1" => .ok true
  | .bulk "0" => .ok false
  | .simple s => .error (mismatch "Response status not valid boolean" (.simple s))
  | r => .error (mismatch "Response type not bool compatible." r)

/-- A reply as text. -/
def text : RedisReply → Except RevocationFault String
  | .simple s => .ok s
  | .bulk s => .ok s
  | .integer n => .ok (Decimal.ofInt n)
  | r => .error (mismatch "Response type not string compatible." r)

end RedisReply

/-- A store in Redis: what stands before each key, and how long a reply may take. -/
structure RedisStore where
  keyStart : String
  timeoutMs : Nat

namespace RedisStore

variable (s : RedisStore)

/-- The key of a token. -/
def key (id : String) : String := s.keyStart ++ id

/-- Whole seconds for a time in nanoseconds: rounded up, at least one. -/
def ttlSeconds (ttl : Nat) : Nat := max 1 ((ttl + 999999999) / 1000000000)

/-- The command that revokes a token for some nanoseconds. -/
def putCommand (id : String) (ttl : Nat) : List String :=
  ["SETEX", s.key id, Decimal.ofNat (ttlSeconds ttl), "revoked"]

/-- The command that asks whether a token is revoked. -/
def containsCommand (id : String) : List String := ["EXISTS", s.key id]

/-- The command that asks whether the server is there. -/
def pingCommand : List String := ["PING"]

/-- A reply, if there was one in time and it is no error. -/
def heard : RedisReply → Except RevocationFault RedisReply
  | .silence => .error (.timeout s.timeoutMs)
  | .error line => .error (.unavailable (RedisReply.errorText line))
  | r => .ok r

/-- What the reply to a revocation means; any reply is an acknowledgement. -/
def afterPut (r : RedisReply) : Except RevocationFault Unit := do
  let _ ← s.heard r

/-- What the reply to a question means. -/
def afterContains (r : RedisReply) : Except RevocationFault Bool := do (← s.heard r).truth

/-- What the reply to a ping means. -/
def afterPing (r : RedisReply) : Except RevocationFault Unit := do
  let text ← (← s.heard r).text
  if text ≠ "PONG" then throw (.unavailable ("unexpected PING reply: " ++ text))

/-- The fault of an address that no client takes. -/
def badAddress (what : String) : RevocationFault :=
  .unavailable (what ++ "- InvalidClientConfig")

/-- What is wrong with the address of a server. -/
def checkAddress (url : String) : Except RevocationFault Unit :=
  match Net.Url.parse url with
  | .error _ => .error (badAddress "Redis URL did not parse")
  | .ok u =>
    if u.scheme = "unix" ∨ u.scheme = "redis+unix" then
      if u.path.toList.head? = some '/' then .ok () else .error (badAddress "Missing path")
    else if u.scheme ≠ "redis" ∧ u.scheme ≠ "rediss" then
      .error (badAddress "Redis URL did not parse")
    else if u.host.isNone then .error (badAddress "Missing hostname")
    else if u.scheme = "rediss" then
      .error (badAddress "can't connect with TLS, the feature is not enabled")
    else
      let inside := u.path.toList.dropWhile (· = '/')
      let number := (inside.reverse.dropWhile (· = '/')).reverse
      if number ≠ [] ∧ Decimal.integer? (String.ofList number) = none then
        .error (badAddress "Invalid database number")
      else .ok ()

/-- The store that the settings describe, after the server's reply to the client's introduction. -/
def connect (r : RedisSettings) (introduction : RedisReply) : Except RevocationFault RedisStore :=
  match r.url with
  | none => .error (.unavailable "redis.url is not set")
  | some url => do
    checkAddress url
    let s : RedisStore := ⟨r.keyStart, r.opTimeoutMs⟩
    let _ ← s.heard introduction
    return s

/-- **The server keeps an entry at least as long as asked for, and less than a second longer.** -/
theorem ttlSeconds_bounds {ttl : Nat} (h : 0 < ttl) :
    ttl ≤ ttlSeconds ttl * 1000000000 ∧ ttlSeconds ttl * 1000000000 < ttl + 1000000000 := by
  unfold ttlSeconds
  omega

end RedisStore

end Accounts
