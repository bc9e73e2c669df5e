import Accounts.Toml.Value

/-!
# Building the tables of a TOML text

A table is made by a header, by a longer header that goes through it, or by a dotted key. Each may
be extended only in its own way, and no name is given twice.

* `Draft`: a table that is being built;
* `Draft.openTable?`, `Draft.openArray?`: the two kinds of headers;
* `Draft.put?`: a value under a dotted key in the table of the last header;
* `Draft.toToml`: the finished table.
-/

namespace Accounts.Toml

/-- How a table came to be: by its header, by a longer header, or by a dotted key. -/
inductive Origin
  | header
  | passage
  | dotted
  deriving DecidableEq

/-- What stands under a name while tables are built. Of a list of tables the newest is first. -/
inductive Draft
  | value (v : Toml)
  | table (origin : Origin) (entries : List (String × Draft))
  | tables (list : List (List (String × Draft)))

namespace Draft

/-- The entries of a table. -/
abbrev Entries : Type := List (String × Draft)

/-- The entries with another value under a name that they hold, or with a new name at the end. -/
def set (entries : Entries) (name : String) (d : Draft) : Entries :=
  if (entries.lookup name).isSome then
    entries.map fun e => if e.1 = name then (name, d) else e
  else entries ++ [(name, d)]

/-- Changes the table at the end of a path. Tables on the way are made as `way` if they are not
there; dotted keys do not go through a table with a header of its own; of a list of tables the
newest is taken. -/
def descend (way : Origin) (change : Origin → Entries → Option Entries) :
    (path : List String) → (here : Origin) → Entries → Option Entries
  | [], here, entries => change here entries
  | name :: path, _, entries =>
    match entries.lookup name with
    | none => do
      let inner ← descend way change path way []
      some (set entries name (.table way inner))
    | some (.value _) => none
    | some (.tables []) => none
    | some (.tables (newest :: older)) => do
      let inner ← descend way change path .header newest
      some (set entries name (.tables (inner :: older)))
    | some (.table origin inner) =>
      if way = .dotted ∧ origin = .header then none
      else do
        let inner ← descend way change path origin inner
        some (set entries name (.table origin inner))

/-- The last name of a path, and the path before it. -/
def parent? (path : List String) : Option (List String × String) :=
  path.getLast?.map fun name => (path.dropLast, name)

/-- Opens the table of a header. -/
def openTable? (root : Entries) (path : List String) : Option Entries := do
  let (before, name) ← parent? path
  let change (_ : Origin) (entries : Entries) : Option Entries :=
    match entries.lookup name with
    | none => some (set entries name (.table .header []))
    | some (.table .passage inner) => some (set entries name (.table .header inner))
    | some _ => none
  descend .passage change before .header root

/-- Opens the next table of the list of a header in double brackets. -/
def openArray? (root : Entries) (path : List String) : Option Entries := do
  let (before, name) ← parent? path
  let change (_ : Origin) (entries : Entries) : Option Entries :=
    match entries.lookup name with
    | none => some (set entries name (.tables [[]]))
    | some (.tables list) => some (set entries name (.tables ([] :: list)))
    | some _ => none
  descend .passage change before .header root

/-- Puts a value under a dotted key, starting from a table. -/
def putHere? (key : List String) (v : Toml) (here : Origin) (entries : Entries) :
    Option Entries := do
  let (before, name) ← parent? key
  let change (origin : Origin) (entries : Entries) : Option Entries :=
    if !before.isEmpty ∧ origin ≠ .dotted then none
    else if (entries.lookup name).isSome then none
    else some (entries ++ [(name, .value v)])
  descend .dotted change before here entries

/-- Puts a value under a dotted key in the table of the last header. -/
def put? (root : Entries) (header key : List String) (v : Toml) : Option Entries :=
  descend .passage (putHere? key v) header .header root

mutual

/-- The finished value. -/
def toToml : Draft → Toml
  | .value v => v
  | .table _ entries => .table (entriesToToml entries)
  | .tables list => .array (listToToml list).reverse

/-- The finished entries of a table. -/
def entriesToToml : List (String × Draft) → List (String × Toml)
  | [] => []
  | (name, d) :: rest => (name, toToml d) :: entriesToToml rest

/-- The finished tables of a list. -/
def listToToml : List (List (String × Draft)) → List Toml
  | [] => []
  | entries :: rest => .table (entriesToToml entries) :: listToToml rest

end

end Draft

end Accounts.Toml
