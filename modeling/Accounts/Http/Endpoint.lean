import Accounts.Gate.Authenticate
import Accounts.Http.Request

/-!
# Endpoints

Each endpoint has a path, a method and a guard.

* `Endpoint`: the endpoints, with the identifier in their path as it is written there;
* `Endpoint.ofPath?`: the endpoint of a path;
* `Endpoint.method`, `Endpoint.guard`: how it is called, and what its callers have to show.
-/

namespace Accounts

/-- What a request can be addressed to. -/
inductive Endpoint
  | live
  | ready
  | register
  | login
  | logout
  | profile
  | update
  | delete (id : List Char)
  | list
  | lookUp (id : List Char)
  deriving DecidableEq

namespace Endpoint

/-- The endpoint of a path below that of the accounts. -/
def ofSegments? : List (List Char) → Option Endpoint
  | [] => none
  | [[]] => none
  | [name] =>
    match String.ofList name with
    | "register" => some .register
    | "login" => some .login
    | "logout" => some .logout
    | "profile" => some .profile
    | "update" => some .update
    | "list" => some .list
    | _ => some (.lookUp name)
  | [name, id] => if name = "delete".toList ∧ id ≠ [] then some (.delete id) else none
  | _ => none

/-- The segments of the path of the accounts. -/
def accountsPath : List (List Char) := [[], "api".toList, "v1".toList, "accounts".toList]

/-- The endpoint of a path. -/
def ofPath? (path : String) : Option Endpoint :=
  let segments := Text.pieces '/' path.toList
  if segments = [[], "health".toList] then some .live
  else if segments = [[], "health".toList, "ready".toList] then some .ready
  else if segments.take 4 = accountsPath then ofSegments? (segments.drop 4)
  else none

/-- The method of an endpoint. -/
def method : Endpoint → String
  | .live => "GET"
  | .ready => "GET"
  | .register => "POST"
  | .login => "POST"
  | .logout => "POST"
  | .profile => "GET"
  | .update => "PUT"
  | .delete _ => "DELETE"
  | .list => "GET"
  | .lookUp _ => "GET"

/-- Whether a method calls an endpoint; what can be got can be asked for without its body. -/
def accepts (e : Endpoint) (method : String) : Bool :=
  method == e.method || (e.method == "GET" && method == "HEAD")

/-- The methods that call an endpoint, as a response names them. -/
def allow (e : Endpoint) : String := if e.method == "GET" then "GET,HEAD" else e.method

/-- What the callers of an endpoint have to show. -/
def guard : Endpoint → Guard
  | .live => .open
  | .ready => .open
  | .register => .open
  | .login => .open
  | .logout => .open
  | .profile => .signedIn
  | .update => .signedIn
  | .delete _ => .signedIn
  | .list => .roles .adminOnly
  | .lookUp _ => .roles .adminOnly

end Endpoint

end Accounts
