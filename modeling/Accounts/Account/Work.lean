import Accounts.Account.Request
import Accounts.Service.Basic
import Accounts.Token.Issue

/-!
# Work on accounts

* `Service.register`, `Service.login`, `Service.profile`, `Service.change`: what callers do with
  their own accounts;
* `Service.everyone`, `Service.lookUp`, `Service.remove`: what is done with any account;
* `LoginReply`: what a login gives.

A change that fails gives no new store.
-/

namespace Accounts

/-- What a login gives. -/
structure LoginReply where
  user : User
  issued : Issued

/-- The JSON form: the user without address, number and hash, with the token and its end. -/
def LoginReply.json (r : LoginReply) : Json :=
  .object [("id", .string r.user.id.text), ("name", .string r.user.name),
    ("username", .string r.user.username), ("email", .string r.user.email),
    ("role", r.user.role.json), ("token", .string r.issued.token),
    ("expires_at", .string r.issued.expiresAt.isoText),
    ("created_at", .string r.user.createdAt.isoText),
    ("updated_at", .string r.user.updatedAt.isoText)]

/-- The role that a request asks for; users if it names none. -/
def RegisterRequest.askedRole (r : RegisterRequest) : Except AccountFault Role :=
  let name := Text.trimmed (r.role.getD "")
  if name = "" then .ok .user
  else
    match Role.parse name with
    | .ok role => .ok role
    | .error _ => .error (.validation ("unknown role '" ++ name ++ "'"))

/-- The identifier in a text. -/
def idOf (raw : String) : Except AccountFault Uuid :=
  match Uuid.parse? (Text.trimmed raw) with
  | some id => .ok id
  | none => .error .invalidId

/-- A user who has to be there. -/
def present : Option User → Except AccountFault User
  | some u => .ok u
  | none => .error .notFound

namespace Service

variable (service : Service)

/-- Whether a registration code and a role go together: the code of the service if it has one,
otherwise only users. -/
def admits (code : Option String) (role : Role) : Bool :=
  match service.registrationCode with
  | some known => code == some known
  | none => role == .user

/-- A new account. -/
def register (o : Occasion) (r : RegisterRequest) (users : UserStore) :
    Except AccountFault (User × UserStore) := do
  r.validate
  let role ← r.askedRole
  if !service.admits r.code role then throw .invalidRegistrationCode
  let hash ← (service.scheme.hash o.salt r.password).mapError .password
  let n : NewUser := ⟨r.name, r.username, r.email, hash, role, r.address, r.phoneNumber⟩
  (users.create n o.freshId o.wall).mapError .ofStore

/-- A token for the user with a name and a password. -/
def login (o : Occasion) (r : LoginRequest) (users : UserStore) :
    Except AccountFault LoginReply := do
  r.validate
  let u ← present (← (users.findByUsername r.username).mapError .ofStore)
  (service.scheme.verify r.password u.passwordHash).mapError fun _ => .invalidCredentials
  return ⟨u, service.signer.issue u.identity o.freshId o.wall⟩

/-- The caller's own account. -/
def profile (caller : Identity) (users : UserStore) : Except AccountFault User := do
  present (← (users.find caller.userId).mapError .ofStore)

/-- The hash of a new password, if one is given. -/
def newHash (o : Occasion) (password : Option String) : Except AccountFault (Option String) :=
  match password.filter (· ≠ "") with
  | none => .ok none
  | some p => ((service.scheme.hash o.salt p).mapError .password).map some

/-- A change of the caller's own account. -/
def change (o : Occasion) (caller : Identity) (r : UpdateRequest) (users : UserStore) :
    Except AccountFault (User × UserStore) := do
  r.validate
  let hash ← service.newHash o r.password
  (users.update caller.userId ⟨r.name, r.username, r.email, hash⟩ o.wall).mapError .ofStore

/-- All accounts. -/
def everyone (users : UserStore) : Except AccountFault (List User) := users.list.mapError .ofStore

/-- Any account. -/
def lookUp (id : String) (users : UserStore) : Except AccountFault User := do
  let id ← idOf id
  present (← (users.find id).mapError .ofStore)

/-- The end of any account. -/
def remove (id : String) (users : UserStore) : Except AccountFault UserStore := do
  let id ← idOf id
  (users.delete id).mapError .ofStore

end Service

end Accounts
