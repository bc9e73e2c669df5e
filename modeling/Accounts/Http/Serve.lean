import Accounts.Account.Work
import Accounts.Http.Body
import Accounts.Http.Endpoint
import Accounts.Metrics.Path
import Accounts.Service.Health
import Accounts.Token.Revoke

/-!
# Serving requests

A request goes through its endpoint's guard, and then to the endpoint's work if its method is right.
Every request and its response are counted.

* `Service.perform`: the work of an endpoint for a caller;
* `Service.route`: a request through its guard to its endpoint;
* `Service.serve`: the same, counted.
-/

namespace Accounts

open Json

/-- The response and the state of a change of the store of users. -/
def settleUsers {α : Type} (st : State) (respond : α → Response) :
    Except AccountFault (α × UserStore) → Response × State
  | .error f => (f.respond, st)
  | .ok (a, users) => (respond a, { st with users := users })

/-- The response of a look at the store of users. -/
def answered {α : Type} (respond : α → Response) : Except AccountFault α → Response
  | .error f => f.respond
  | .ok a => respond a

/-- A success with a user. -/
def userFound (message : String) (u : User) : Response :=
  (ApiSuccess.mk message (some u.json)).respond

/-- A success with a list of users. -/
def usersFound (message : String) (us : List User) : Response :=
  (ApiSuccess.mk message (some (.array (us.map User.json)))).respond

/-- A success without data. -/
def done (message : String) : Response := (ApiSuccess.mk message none).respond

/-- The response to a path whose identifier is no text. -/
def brokenPath : Response := .plain 400 "Invalid URL: Invalid UTF-8 in \x60id\x60"

/-- The identifier in a path as text. -/
def pathId? (written : List Char) : Option String := Utf8.decode? (percentDecoded written)

namespace Service

variable (service : Service)

/-- The work of registering. -/
def performRegister (o : Occasion) (r : Request) (st : State) : Response × State :=
  match r.read RegisterRequest.read with
  | .error f => (f.respond, st)
  | .ok request =>
    settleUsers st
      (fun u => .json 201 (ApiSuccess.mk "User created successfully" (some u.json)).json)
      (service.register o request st.users)

/-- The work of logging in. -/
def performLogin (o : Occasion) (r : Request) (st : State) : Response :=
  match r.read LoginRequest.read with
  | .error f => f.respond
  | .ok request =>
    answered (fun reply => (ApiSuccess.mk "Login successful" (some reply.json)).respond)
      (service.login o request st.users)

/-- The work of logging out; only the header is looked at. -/
def performLogout (o : Occasion) (r : Request) (st : State) : Response × State :=
  match r.headers.first? "authorization" with
  | none => (AuthFault.missingToken.respond, st)
  | some value =>
    match headerText? value with
    | none => (LogoutFault.invalidFormat.respond, st)
    | some text =>
      match service.logout o text st with
      | (.ok _, st) => (done "Logout successful", st)
      | (.error f, st) => (f.respond, st)

/-- The work of changing one's own account. -/
def performUpdate (o : Occasion) (caller : Identity) (r : Request) (st : State) :
    Response × State :=
  match r.read UpdateRequest.read with
  | .error f => (f.respond, st)
  | .ok request =>
    settleUsers st (userFound "User updated successfully")
      (service.change o caller request st.users)

/-- The work of an endpoint. Guards see to it that there is a caller where one is needed. -/
def perform (o : Occasion) (r : Request) (caller : Option Identity) (st : State) :
    Endpoint → Response × State
  | .live => (.plain 200 "OK", st)
  | .ready => (service.healthReport o.wall st, st)
  | .register => service.performRegister o r st
  | .login => (service.performLogin o r st, st)
  | .logout => service.performLogout o r st
  | .profile =>
    match caller with
    | none => (AuthFault.missingIdentity.respond, st)
    | some i => (answered (userFound "User profile retrieved") (profile i st.users), st)
  | .update =>
    match caller with
    | none => (AuthFault.missingIdentity.respond, st)
    | some i => service.performUpdate o i r st
  | .delete written =>
    match pathId? written with
    | none => (brokenPath, st)
    | some id =>
      settleUsers st (fun _ => done "User deleted successfully")
        ((remove id st.users).map ((), ·))
  | .list => (answered (usersFound "Users retrieved") (everyone st.users), st)
  | .lookUp written =>
    match pathId? written with
    | none => (brokenPath, st)
    | some id => (answered (userFound "User retrieved") (lookUp id st.users), st)

/-- A request through the guard of its endpoint; the guard comes before the method. -/
def enter (o : Occasion) (r : Request) (e : Endpoint) (st : State) : Response × State :=
  match e.guard.pass service o r.headers st with
  | (.error f, st) => (f.respond, st)
  | (.ok caller, st) =>
    if e.accepts r.method then service.perform o r caller st e else (.empty 405, st)

/-- A response as its request's method has it: the methods of the endpoint if it was the wrong one,
and no body if only the head was asked for. -/
def dress (r : Request) (e : Endpoint) (response : Response) : Response :=
  let response := if e.accepts r.method then response else { response with allow := some e.allow }
  if r.method = "HEAD" then { response with body := "" } else response

/-- A request to its endpoint. -/
def route (o : Occasion) (r : Request) (st : State) : Response × State :=
  match Endpoint.ofPath? r.path with
  | none => (.empty 404, st)
  | some e =>
    let (response, st) := service.enter o r e st
    (dress r e response, st)

/-- A request to its endpoint, counted; the steady clock stands still during an operation. -/
def serve (o : Occasion) (r : Request) (st : State) : Response × State :=
  let label := pathLabel r.path
  let st := st.count (.request r.method label)
  let (response, st) := service.route o r st
  let st := st.count (.response r.method label response.status)
  let st := { st with metrics := st.metrics.time ⟨r.method, label, 0⟩ }
  let st :=
    match response.rejection with
    | some code => st.count (.rejection label response.status code)
    | none => st
  (response, st)

end Service

end Accounts
