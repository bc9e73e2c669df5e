import Accounts.Toml.Scalar
import Accounts.Toml.Table

/-!
# Reading TOML

* `Toml.value?`: a value, with arrays and inline tables at most 79 brackets deep;
* `Toml.parse?`: the table of a whole text.
-/

namespace Accounts.Toml

/-- A reader of something at the start of a list. -/
abbrev Reader (α : Type) : Type := List Char → Option (α × List Char)

/-- The rest of a line after a comment's mark, as long as its characters may stand in text. -/
def afterComment (cs : List Char) : List Char :=
  match cs with
  | '#' :: rest => rest.dropWhile isPlain
  | cs => cs

/-- What follows blanks, comments and line ends. -/
def afterLines : (budget : Nat) → List Char → List Char
  | 0, cs => cs
  | budget + 1, cs =>
    let rest := afterComment (afterGap cs)
    match lineEnd? rest with
    | some n => afterLines budget (rest.drop n)
    | none => rest

/-- The items of an array after its bracket; a comma may follow the last. -/
def items? (item : Reader Toml) : (budget : Nat) → Reader (List Toml)
  | 0, _ => none
  | budget + 1, cs =>
    match afterLines cs.length cs with
    | ']' :: rest => some ([], rest)
    | cs => do
      let (v, rest) ← item cs
      match afterLines rest.length rest with
      | ',' :: more =>
        let (vs, rest) ← items? item budget more
        some (v :: vs, rest)
      | ']' :: rest => some ([v], rest)
      | _ => none

/-- A key and a value with an equals sign between them, on one line. -/
def pair? (item : Reader Toml) : Reader (List String × Toml) := fun cs => do
  let (key, rest) ← key? 79 cs
  match rest with
  | '=' :: rest =>
    let (v, rest) ← item (afterGap rest)
    some ((key, v), afterGap rest)
  | _ => none

/-- The pairs of an inline table, at least one. -/
def pairs? (item : Reader Toml) : (budget : Nat) → Reader (List (List String × Toml))
  | 0, _ => none
  | budget + 1, cs => do
    let (p, rest) ← pair? item cs
    match rest with
    | ',' :: more =>
      let (ps, rest) ← pairs? item budget more
      some (p :: ps, rest)
    | '\x7d' :: rest => some ([p], rest)
    | _ => none

/-- The table of the pairs of an inline table. -/
def inlineTable? (pairs : List (List String × Toml)) : Option Toml := do
  let entries ← pairs.foldlM (fun entries (key, v) => Draft.putHere? key v .header entries) []
  some (.table (Draft.entriesToToml entries))

/-- A value. -/
def value? : (depth : Nat) → Reader Toml
  | 0, cs =>
    match string? cs with
    | some (s, rest) => some (.string (String.ofList s), rest)
    | none => scalarWord? cs
  | depth + 1, cs =>
    match cs with
    | '[' :: rest =>
      (items? (value? depth) (rest.length + 1) rest).map fun (vs, rest) => (.array vs, rest)
    | '\x7b' :: rest =>
      match afterGap rest with
      | '\x7d' :: rest => some (.table [], rest)
      | _ => do
        let (pairs, rest) ← pairs? (value? depth) (rest.length + 1) rest
        some (← inlineTable? pairs, rest)
    | _ =>
      match string? cs with
      | some (s, rest) => some (.string (String.ofList s), rest)
      | none => scalarWord? cs

/-- What a line says. -/
inductive Line
  | table (path : List String)
  | array (path : List String)
  | pair (key : List String) (v : Toml)

/-- A line that is not empty. -/
def line? : Reader Line
  | '[' :: '[' :: cs => do
    let (path, rest) ← key? 79 cs
    match rest with
    | ']' :: ']' :: rest => some (.array path, rest)
    | _ => none
  | '[' :: cs => do
    let (path, rest) ← key? 79 cs
    match rest with
    | ']' :: rest => some (.table path, rest)
    | _ => none
  | cs => (pair? (value? 79) cs).map fun ((key, v), rest) => (.pair key v, rest)

/-- A line taken into the tables; the path is that of the last header. -/
def take? (root : Draft.Entries) (header : List String) : Line →
    Option (Draft.Entries × List String)
  | .table path => (Draft.openTable? root path).map (·, path)
  | .array path => (Draft.openArray? root path).map (·, path)
  | .pair key v => (Draft.put? root header key v).map (·, header)

/-- All lines of a text taken into the tables. -/
def lines? (root : Draft.Entries) (header : List String) : (budget : Nat) → List Char →
    Option Draft.Entries
  | 0, _ => none
  | budget + 1, cs =>
    match afterLines cs.length cs with
    | [] => some root
    | cs => do
      let (line, rest) ← line? cs
      let (root, header) ← take? root header line
      let rest := afterComment (afterGap rest)
      match rest, lineEnd? rest with
      | [], _ => some root
      | rest, some n => lines? root header budget (rest.drop n)
      | _, none => none

/-- A text without the mark of its byte order. -/
def withoutMark : List Char → List Char
  | '\ufeff' :: cs => cs
  | cs => cs

/-- The table of a text. -/
def parse? (s : String) : Option (List (String × Toml)) :=
  let cs := withoutMark s.toList
  (lines? [] [] (cs.length + 1) cs).map Draft.entriesToToml

end Accounts.Toml
