import Accounts.Role
import Accounts.Uuid
import Accounts.Time.Reading

/-!
# Users and identities

A user is a stored account. An identity is the part of it that a token carries.

* `Identity`, `User`, `NewUser`, `UserUpdate`;
* `User.json`, `User.read`: the JSON form; a password hash is read but never written.
-/

namespace Accounts

open Json

/-- Who a verified caller is. -/
structure Identity where
  userId : Uuid
  username : String
  role : Role
  deriving DecidableEq

namespace Identity

/-- Administrators may look at the records of others. -/
def isAdmin (i : Identity) : Bool := i.role == .admin

/-- The JSON form. -/
def json (i : Identity) : Json :=
  .object [("user_id", .string i.userId.text), ("username", .string i.username),
    ("role", i.role.json)]

end Identity

/-- Reads an identifier. -/
def Uuid.read : Node → Reading Uuid := readFormatted "a formatted UUID string" "UUID" Uuid.parse?

/-- Reads a point in time. -/
def Timestamp.read : Node → Reading Timestamp :=
  readFormatted "an RFC 3339 formatted date and time string" "date and time" Timestamp.parse?

/-- The fields of an identity. -/
def Identity.fields : List Field :=
  [.required "user_id" Uuid.read, .required "username" readText, .required "role" Role.read]

/-- Reads an identity. -/
def Identity.read (node : Node) : Reading Identity := do
  let f ← Record.fields "Identity" Identity.fields node
  return {
    userId := ← f.get "user_id" Uuid.read
    username := ← f.get "username" readText
    role := ← f.get "role" Role.read }

/-- A stored account. -/
structure User where
  id : Uuid
  name : String
  username : String
  email : String
  passwordHash : String
  role : Role
  address : String
  phoneNumber : String
  createdAt : Timestamp
  updatedAt : Timestamp
  deriving DecidableEq

namespace User

/-- The identity of a user. -/
def identity (u : User) : Identity := ⟨u.id, u.username, u.role⟩

/-- The JSON form, without the password hash. -/
def json (u : User) : Json :=
  .object [("id", .string u.id.text), ("name", .string u.name), ("username", .string u.username),
    ("email", .string u.email), ("role", u.role.json), ("address", .string u.address),
    ("phone_number", .string u.phoneNumber), ("created_at", .string u.createdAt.isoText),
    ("updated_at", .string u.updatedAt.isoText)]

/-- The fields of a user. The password hash may be missing and is then empty. -/
def fields : List Field :=
  [.required "id" Uuid.read, .required "name" readText, .required "username" readText,
    .required "email" readText, .withDefault "password_hash" readText,
    .required "role" Role.read, .required "address" readText,
    .required "phone_number" readText, .required "created_at" Timestamp.read,
    .required "updated_at" Timestamp.read]

/-- Reads a user. -/
def read (node : Node) : Reading User := do
  let f ← Record.fields "User" fields node
  return {
    id := ← f.get "id" Uuid.read
    name := ← f.get "name" readText
    username := ← f.get "username" readText
    email := ← f.get "email" readText
    passwordHash := ← f.getD "password_hash" readText ""
    role := ← f.get "role" Role.read
    address := ← f.get "address" readText
    phoneNumber := ← f.get "phone_number" readText
    createdAt := ← f.get "created_at" Timestamp.read
    updatedAt := ← f.get "updated_at" Timestamp.read }

end User

/-- What a new account starts with. -/
structure NewUser where
  name : String
  username : String
  email : String
  passwordHash : String
  role : Role
  address : String
  phoneNumber : String

/-- The account that starts now under a given identifier. -/
def NewUser.toUser (n : NewUser) (id : Uuid) (now : Timestamp) : User where
  id := id
  name := n.name
  username := n.username
  email := n.email
  passwordHash := n.passwordHash
  role := n.role
  address := n.address
  phoneNumber := n.phoneNumber
  createdAt := now
  updatedAt := now

/-- What the owner of an account may change; without a hash the password stays. -/
structure UserUpdate where
  name : String
  username : String
  email : String
  passwordHash : Option String

/-- The account after a change. -/
def User.updated (u : User) (change : UserUpdate) (now : Timestamp) : User :=
  { u with
    name := change.name
    username := change.username
    email := change.email
    passwordHash := change.passwordHash.getD u.passwordHash
    updatedAt := now }

end Accounts
