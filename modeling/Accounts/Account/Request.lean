import Accounts.Account.Fault
import Accounts.Email.Address

/-!
# Requests about accounts

What callers send to register, to log in and to change their record, and what must hold before it is
looked at.

* `RegisterRequest`, `LoginRequest`, `UpdateRequest`: the requests and how they are read;
* `validate`: the check of each, with the complaints in alphabetic order.
-/

namespace Accounts

open Json

/-- A request to register. -/
structure RegisterRequest where
  name : String
  username : String
  email : String
  password : String
  role : Option String
  address : String
  phoneNumber : String
  code : Option String

/-- A request to log in. -/
structure LoginRequest where
  username : String
  password : String

/-- A request to change one's record; without a password, or with an empty one, it stays. -/
structure UpdateRequest where
  name : String
  username : String
  email : String
  password : Option String

/-- A complaint, if the text is empty. -/
def complainIfEmpty (s complaint : String) : List String := if s = "" then [complaint] else []

/-- A complaint, if the text is no mail address. -/
def complainAboutEmail (s : String) : List String :=
  if Email.isAddress s then [] else ["email must be a valid address"]

/-- No fault without complaints; otherwise all of them in alphabetic order. -/
def settle (complaints : List String) : Except AccountFault Unit :=
  if complaints = [] then .ok ()
  else .error (.validation (String.intercalate ", " (complaints.mergeSort fun a b => a ≤ b)))

namespace RegisterRequest

/-- The fields of a request to register. -/
def fields : List Field :=
  [.required "name" readText, .required "username" readText, .required "email" readText,
    .required "password" readText, .withDefault "role" (readOptional readText),
    .withDefault "address" readText, .withDefault "phone_number" readText,
    .withDefault "token" (readOptional readText)]

/-- Reads a request to register. -/
def read (node : Node) : Reading RegisterRequest := do
  let f ← Record.fields "RegisterRequest" fields node
  return {
    name := ← f.get "name" readText
    username := ← f.get "username" readText
    email := ← f.get "email" readText
    password := ← f.get "password" readText
    role := ← f.get? "role" readText
    address := ← f.getD "address" readText ""
    phoneNumber := ← f.getD "phone_number" readText ""
    code := ← f.get? "token" readText }

/-- Name, user name and password are given, and the mail address is one. -/
def validate (r : RegisterRequest) : Except AccountFault Unit :=
  settle (complainIfEmpty r.name "name is required" ++
    complainIfEmpty r.username "username is required" ++ complainAboutEmail r.email ++
    complainIfEmpty r.password "password is required")

end RegisterRequest

namespace LoginRequest

/-- Reads a request to log in. -/
def read (node : Node) : Reading LoginRequest := do
  let f ← Record.fields "LoginRequest"
    [.required "username" readText, .required "password" readText] node
  return { username := ← f.get "username" readText, password := ← f.get "password" readText }

/-- User name and password are given. -/
def validate (r : LoginRequest) : Except AccountFault Unit :=
  settle (complainIfEmpty r.username "username is required" ++
    complainIfEmpty r.password "password is required")

end LoginRequest

namespace UpdateRequest

/-- The fields of a request to change a record. -/
def fields : List Field :=
  [.required "name" readText, .required "username" readText, .required "email" readText,
    .withDefault "password" (readOptional readText)]

/-- Reads a request to change a record. -/
def read (node : Node) : Reading UpdateRequest := do
  let f ← Record.fields "UpdateRequest" fields node
  return {
    name := ← f.get "name" readText
    username := ← f.get "username" readText
    email := ← f.get "email" readText
    password := ← f.get? "password" readText }

/-- Name and user name are given, and the mail address is one. -/
def validate (r : UpdateRequest) : Except AccountFault Unit :=
  settle (complainIfEmpty r.name "name is required" ++
    complainIfEmpty r.username "username is required" ++ complainAboutEmail r.email)

end UpdateRequest

end Accounts
