import Accounts.Settings.EnvFile
import Accounts.Settings.Environment
import Accounts.Settings.Reading
import Accounts.Toml.Document

/-!
# Loading the settings

Built-in values come first, then a file, then the environment; a later layer wins setting by
setting.

* `SettingsFile`: a file in TOML;
* `Settings.builtIn`: the built-in values by key;
* `Settings.merged?`: the tree of all layers;
* `Settings.load`: settings that pass the check;
* `Settings.loadDefault`: the same from the usual file, after the file of assignments.
-/

namespace Accounts

namespace Settings.Tree

mutual

/-- A value of a file; dates and times are text. -/
def ofToml (origin : String) : Toml → Tree
  | .string s => .scalar (.text s) (some origin)
  | .integer n => .scalar (.integer n) (some origin)
  | .float x => .scalar (.float x) (some origin)
  | .bool b => .scalar (.bool b) (some origin)
  | .moment s => .scalar (.text s) (some origin)
  | .array items => .list (ofTomlItems origin items) (some origin)
  | .table entries => .table (ofTomlEntries origin entries) (some origin)

/-- The items of a list of a file. -/
def ofTomlItems (origin : String) : List Toml → List Tree
  | [] => []
  | t :: ts => ofToml origin t :: ofTomlItems origin ts

/-- The entries of a table of a file. -/
def ofTomlEntries (origin : String) : List (String × Toml) → Entries
  | [] => []
  | (name, t) :: rest => (name, ofToml origin t) :: ofTomlEntries origin rest

end

/-- Settings of a layer laid on those before it. -/
def lay (here layer : Entries) : Entries :=
  layer.foldl (fun here (key, t) => putKey here key t) here

end Settings.Tree

/-- A file of settings. -/
structure SettingsFile where
  name : String
  text : String

namespace Settings

/-- The built-in values by key; the settings that are not here may be missing. -/
def builtIn : List (String × Scalar) := [
  ("server.host", .text "127.0.0.1"), ("server.http_port", .integer 8080),
  ("server.grpc_port", .integer 50051), ("server.request_timeout_secs", .integer 30),
  ("database.max_connections", .integer 10), ("database.connect_timeout_secs", .integer 10),
  ("database.run_migrations", .bool true), ("redis.key_prefix", .text "jwt:blacklist:"),
  ("redis.op_timeout_ms", .integer 2000), ("auth.token_lifetime_hours", .integer 24),
  ("auth.issuer", .text "account-service"), ("auth.audience", .text "account-clients"),
  ("logging.level", .text "info"), ("logging.format", .text "pretty")]

/-- The tree of the built-in values. -/
def builtInTree : Tree.Entries :=
  Tree.lay [] (builtIn.map fun (key, value) => (key, .scalar value none))

/-- The tree of all layers, or nothing if the file is no TOML. -/
def merged? (file : Option SettingsFile) (environment : List (String × String)) :
    Option Tree.Entries := do
  let fromFile ← match file with
    | none => some []
    | some f => (Toml.parse? f.text).map (Tree.ofTomlEntries f.name)
  some (Tree.lay (Tree.lay builtInTree fromFile) (Environment.settings environment))

/-- The settings of all layers, if they can be read and pass the check. -/
def load (file : Option SettingsFile) (environment : List (String × String)) :
    Except SettingsFault Settings := do
  match merged? file environment with
  | none => .error .brokenFile
  | some entries =>
    match ofEntries entries with
    | .error f => .error (.unreadable f.message)
    | .ok settings =>
      settings.validate
      return settings

/-- Where the usual file is. -/
def defaultFile : String := "config/default.toml"

/-- The settings of the usual file, with an environment that a file of assignments has added to. -/
def loadDefault (text assignments : Option String) (environment : List (String × String)) :
    Except SettingsFault Settings :=
  load (text.map (SettingsFile.mk defaultFile))
    (match assignments with
      | some file => EnvFile.load environment file
      | none => environment)

end Settings

end Accounts
