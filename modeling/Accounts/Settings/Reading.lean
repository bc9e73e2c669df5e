import Accounts.Decimal.Reading
import Accounts.Json.Fault
import Accounts.Settings.Basic
import Accounts.Settings.Tree

/-!
# Settings from their tree

Each setting is read from the value that the layers left for it. Values are read leniently: numbers
and truth values serve as text, words and numbers as truth values, text and truth values as numbers.

* `Seen`, `TreeFault`, `TreeFault.message`: what can be wrong;
* `Tree.text`, `Tree.truth`, `Tree.natural`, `Tree.integer`: the readings of one value;
* `Section`: the fields of a section, by name or by place;
* `Settings.ofEntries`: the settings of a tree.
-/

namespace Accounts.Settings

/-- What stands where a value of another kind is asked for. -/
inductive Seen
  | nothing
  | integer (n : Int)
  | natural (n : Nat)
  | text (s : String)
  | sequence
  | mapping

/-- The wording of what is seen. -/
def Seen.text' : Seen → String
  | .nothing => "unit value"
  | .integer n => "64-bit integer " ++ Json.Found.ticked (Decimal.ofInt n)
  | .natural n => "64-bit unsigned integer " ++ Json.Found.ticked (Decimal.ofNat n)
  | .text s => "string " ++ Text.quotedForMessage s
  | .sequence => "sequence"
  | .mapping => "map"

/-- Why settings cannot be read from a tree. -/
inductive TreeFault
  | unexpected (seen : Seen) (expected : String) (key : List Json.Location) (origin : Option String)
  | noSection (found : String) (name : String)
  | tooShort (length : Nat) (name : String) (count : Nat)
  | missing (field : String)

namespace TreeFault

/-- The key that a list of locations leads along. -/
def keyText : List Json.Location → String
  | [] => ""
  | [l] => l.text
  | l :: .item i :: rest => l.text ++ keyText (.item i :: rest)
  | l :: rest => l.text ++ "." ++ keyText rest

/-- The wording of a fault. -/
def message : TreeFault → String
  | .unexpected seen expected key origin =>
    "invalid type: " ++ seen.text' ++ ", expected " ++ expected ++
      (if key.isEmpty then "" else " for key " ++ Json.Found.ticked (keyText key)) ++
      (match origin with
        | some o => " in " ++ o
        | none => "")
  | .noSection found name => "invalid type: " ++ found ++ ", expected struct " ++ name
  | .tooShort n name count =>
    "invalid length " ++ Decimal.ofNat n ++ ", expected struct " ++ name ++ " with " ++
      Decimal.ofNat count ++ " elements"
  | .missing field => "missing field " ++ Json.Found.ticked field

/-- The same fault one location further out. -/
def within (l : Json.Location) : TreeFault → TreeFault
  | .unexpected seen expected key origin => .unexpected seen expected (l :: key) origin
  | f => f

end TreeFault

/-- The result of a reading. -/
abbrev Reading (α : Type) : Type := Except TreeFault α

namespace Tree

/-- Refuses a value for what it is. -/
def refuse {α : Type} (seen : Seen) (expected : String) (origin : Option String) : Reading α :=
  .error (.unexpected seen expected [] origin)

/-- A value as text. -/
def text : Tree → Reading String
  | .scalar (.text s) _ => .ok s
  | .scalar (.bool b) _ => .ok (if b then "true" else "false")
  | .scalar (.integer n) _ => .ok (Decimal.ofInt n)
  | .scalar (.float x) _ => .ok (Decimal.plainText x)
  | .scalar .nothing origin => refuse .nothing "a string" origin
  | .list _ origin => refuse .sequence "a string" origin
  | .table _ origin => refuse .mapping "a string" origin

/-- The truth value of a word. -/
def word? (s : String) : Option Bool :=
  let low := Text.lowercase s
  if low = "true" ∨ low = "on" ∨ low = "yes" then some true
  else if low = "false" ∨ low = "off" ∨ low = "no" then some false
  else none

/-- The truth value of a text: a word or one of two digits. -/
def truthOf? (s : String) : Option Bool :=
  if s = "1" then some true else if s = "0" then some false else word? s

/-- A value as a truth value. -/
def truth : Tree → Reading Bool
  | .scalar (.bool b) _ => .ok b
  | .scalar (.integer n) _ => .ok (n ≠ 0)
  | .scalar (.float x) _ => .ok (x != 0)
  | .scalar (.text s) origin =>
    match truthOf? s with
    | some b => .ok b
    | none => refuse (.text s) "a boolean" origin
  | .scalar .nothing origin => refuse .nothing "a boolean" origin
  | .list _ origin => refuse .sequence "a boolean" origin
  | .table _ origin => refuse .mapping "a boolean" origin

/-- A value as a number of 64 bits without a sign; floats are rounded, halves away from zero, and
those out of range become the nearest number in it. -/
def natural64 : Tree → Reading Nat
  | .scalar (.integer n) origin =>
    if n < 0 then refuse (.integer n) "an unsigned 64 bit or less integer" origin else .ok n.toNat
  | .scalar (.float x) _ => .ok x.round.toUInt64.toNat
  | .scalar (.bool b) _ => .ok b.toNat
  | .scalar (.text s) origin =>
    match word? s, Decimal.natural? UInt64.size s with
    | some b, _ => .ok b.toNat
    | none, some n => .ok n
    | none, none => refuse (.text s) "an integer" origin
  | .scalar .nothing origin => refuse .nothing "an integer" origin
  | .list _ origin => refuse .sequence "an integer" origin
  | .table _ origin => refuse .mapping "an integer" origin

/-- A value as a number of some bits without a sign. -/
def natural (bits : Nat) (t : Tree) : Reading Nat := do
  let n ← natural64 t
  if n < Nat.pow 2 bits then return n
  else refuse (.natural n) ("an unsigned " ++ Decimal.ofNat bits ++ " bit integer") none

/-- A value as a number of 64 bits with a sign. -/
def integer : Tree → Reading Int
  | .scalar (.integer n) _ => .ok n
  | .scalar (.float x) _ => .ok x.round.toInt64.toInt
  | .scalar (.bool b) _ => .ok b.toNat
  | .scalar (.text s) origin =>
    match word? s, Decimal.integer? s with
    | some b, _ => .ok b.toNat
    | none, some n => .ok n
    | none, none => refuse (.text s) "an integer" origin
  | .scalar .nothing origin => refuse .nothing "an integer" origin
  | .list _ origin => refuse .sequence "an integer" origin
  | .table _ origin => refuse .mapping "an integer" origin

/-- A value that may be missing. -/
def optional {α : Type} (read : Tree → Reading α) : Tree → Reading (Option α)
  | .scalar .nothing _ => .ok none
  | t => some <$> read t

end Tree

/-- The fields of a section: a table has them by name, a list by place. -/
structure Section where
  name : String
  count : Nat
  named : List (String × Tree) := []
  placed : Option (List Tree) := none

namespace Section

/-- The section that stands in a tree. -/
def ofTree (name : String) (count : Nat) : Tree → Reading Section
  | .table entries _ => .ok { name, count, named := entries }
  | .list items _ => .ok { name, count, placed := some items }
  | .scalar value _ =>
    .error (.noSection (match value with
      | .nothing => "unit value"
      | .bool b => (Json.Found.bool b).text
      | .integer n => (Json.Found.integer n).text
      | .float x => (Json.Found.decimal x).text
      | .text s => (Json.Found.string s).text) name)

/-- A field, with what stands for it if its name or its place is not there. -/
def field {α : Type} (s : Section) (place : Nat) (name : String) (read : Tree → Reading α)
    (unnamed unplaced : Option α) : Reading α :=
  match s.placed with
  | none =>
    match s.named.lookup name, unnamed with
    | some t, _ => (read t).mapError (·.within (.field name))
    | none, some a => .ok a
    | none, none => .error (.missing name)
  | some items =>
    match items[place]?, unplaced with
    | some t, _ => (read t).mapError (·.within (.item place))
    | none, some a => .ok a
    | none, none => .error (.tooShort place s.name s.count)

/-- A field that must be there. -/
def required {α : Type} (s : Section) (place : Nat) (name : String) (read : Tree → Reading α) :
    Reading α :=
  s.field place name read none none

/-- A field that may be left out by name. -/
def nullable {α : Type} (s : Section) (place : Nat) (name : String) (read : Tree → Reading α) :
    Reading (Option α) :=
  s.field place name (Tree.optional read) (some none) none

/-- The fault of a reading. -/
def fault? {α : Type} : Reading α → Option TreeFault
  | .ok _ => none
  | .error f => some f

/-- Raises a wrong value before a field that is missing. -/
def settle (faults : List (Option TreeFault)) : Reading Unit :=
  let raised := faults.filterMap id
  let isMissing : TreeFault → Bool := fun
    | .missing _ => true
    | _ => false
  match raised.find? (!isMissing ·), raised with
  | some f, _ => .error f
  | none, f :: _ => .error f
  | none, [] => .ok ()

end Section

end Accounts.Settings

namespace Accounts

open Settings Settings.Section

/-- The settings of the listener. -/
def ServerSettings.read (t : Tree) : Reading ServerSettings := do
  let s ← ofTree "ServerConfig" 4 t
  let host := s.required 0 "host" Tree.text
  let http := s.required 1 "http_port" (Tree.natural 16)
  let grpc := s.required 2 "grpc_port" (Tree.natural 16)
  let timeout := s.required 3 "request_timeout_secs" (Tree.natural 64)
  settle [fault? host, fault? http, fault? grpc, fault? timeout]
  return ⟨← host, ← http, ← grpc, ← timeout⟩

/-- The settings of the store of users. -/
def DatabaseSettings.read (t : Tree) : Reading DatabaseSettings := do
  let s ← ofTree "DatabaseConfig" 4 t
  let url := s.nullable 0 "url" Tree.text
  let connections := s.required 1 "max_connections" (Tree.natural 32)
  let timeout := s.required 2 "connect_timeout_secs" (Tree.natural 64)
  let migrations := s.required 3 "run_migrations" Tree.truth
  settle [fault? url, fault? connections, fault? timeout, fault? migrations]
  return ⟨← url, ← connections, ← timeout, ← migrations⟩

/-- The settings of the store of revoked tokens. -/
def RedisSettings.read (t : Tree) : Reading RedisSettings := do
  let s ← ofTree "RedisConfig" 3 t
  let url := s.nullable 0 "url" Tree.text
  let start := s.required 1 "key_prefix" Tree.text
  let timeout := s.required 2 "op_timeout_ms" (Tree.natural 64)
  settle [fault? url, fault? start, fault? timeout]
  return ⟨← url, ← start, ← timeout⟩

/-- The settings of tokens and registration; the secret may be left out in both forms. -/
def AuthSettings.read (t : Tree) : Reading AuthSettings := do
  let s ← ofTree "AuthConfig" 5 t
  let secret := s.field 0 "jwt_secret" Tree.text (some "") (some "")
  let hours := s.required 1 "token_lifetime_hours" Tree.integer
  let issuer := s.required 2 "issuer" Tree.text
  let audience := s.required 3 "audience" Tree.text
  let code := s.nullable 4 "registration_code" Tree.text
  settle [fault? secret, fault? hours, fault? issuer, fault? audience, fault? code]
  return ⟨← secret, ← hours, ← issuer, ← audience, ← code⟩

/-- The settings of the log. -/
def LogSettings.read (t : Tree) : Reading LogSettings := do
  let s ← ofTree "LoggingConfig" 2 t
  let level := s.required 0 "level" Tree.text
  let format := s.required 1 "format" Tree.text
  settle [fault? level, fault? format]
  return ⟨← level, ← format⟩

/-- The settings of a tree; a section that is not there has its built-in values. -/
def Settings.ofEntries (entries : List (String × Tree)) : Reading Settings := do
  let s : Section := { name := "AppConfig", count := 5, named := entries }
  return {
    server := ← s.field 0 "server" ServerSettings.read (some {}) none
    database := ← s.field 1 "database" DatabaseSettings.read (some {}) none
    redis := ← s.field 2 "redis" RedisSettings.read (some {}) none
    auth := ← s.field 3 "auth" AuthSettings.read (some {}) none
    logging := ← s.field 4 "logging" LogSettings.read (some {}) none }

end Accounts
