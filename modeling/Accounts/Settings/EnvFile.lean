import Accounts.Text.Alphanumeric
import Accounts.Text.Blank

/-!
# Files of assignments

A file may assign variables of the environment, one in a line: `NAME=value`, with quotes, escapes,
comments, and `$NAME` for the value of another variable. What the environment has already is kept,
and a line that cannot be read ends the file.

* `logicalLines`: the lines, where quotes go over line ends;
* `assignment?`: what a line assigns;
* `EnvFile.load`: the environment after a file;
* **`lookup_load`**: a variable that is there keeps its value.
-/

namespace Accounts.EnvFile

/-- Where a place in a line is as to quotes and blanks. -/
inductive Quoting
  | plain
  | blank
  | escape
  | strong
  | strongEscape
  | weak
  | weakEscape
  deriving DecidableEq

namespace Quoting

/-- What an unquoted character leads to. -/
def start (c : Char) : Quoting :=
  if c = '\\' then .escape else if c = '"' then .weak else if c = '\'' then .strong else .plain

/-- The next place; nothing where a comment begins. -/
def next? (c : Char) : Quoting → Option Quoting
  | .plain => some (if Text.isBlank c ∧ c ≠ '\n' ∧ c ≠ '\r' then .blank else start c)
  | .blank => if c = '#' then none else some (start c)
  | .escape => some .plain
  | .strong => some (if c = '\\' then .strongEscape else if c = '\'' then .plain else .strong)
  | .strongEscape => some .strong
  | .weak => some (if c = '\\' then .weakEscape else if c = '"' then .plain else .weak)
  | .weakEscape => some .weak

end Quoting

/-- The part of a line before its comment, and where the line ends if it has none. -/
def scan (q : Quoting) : List Char → List Char × Option Quoting
  | [] => ([], some q)
  | c :: cs =>
    match q.next? c with
    | none => ([], none)
    | some q =>
      let (kept, last) := scan q cs
      (c :: kept, last)

/-- The lines of a text with their ends. -/
def physicalLines : List Char → List (List Char)
  | [] => []
  | c :: cs =>
    if c = '\n' then [c] :: physicalLines cs
    else
      match physicalLines cs with
      | line :: lines => (c :: line) :: lines
      | [] => [[c]]

/-- A line without its end. -/
def withoutEnd (cs : List Char) : List Char :=
  match cs.reverse with
  | '\n' :: '\r' :: back => back.reverse
  | '\n' :: back => back.reverse
  | _ => cs

/-- The lines of a file, joined where a quote or an escape is open at a line's end; nothing stands
for an end of the file inside a line. -/
def logicalLines (buffer : List Char) (q : Quoting) : List (List Char) → List (Option (List Char))
  | [] => if q = .plain then [] else [none]
  | line :: rest =>
    let whole := buffer ++ line
    if (whole.dropWhile Text.isBlank).head? = some '#' then some [] :: logicalLines [] .plain rest
    else
      match scan q line with
      | (kept, none) => some (buffer ++ kept) :: logicalLines [] .plain rest
      | (_, some .plain) => some (withoutEnd whole) :: logicalLines [] .plain rest
      | (_, some q) => logicalLines whole q rest

/-- How a place in a value is quoted; after a blank only a comment may follow. -/
inductive Mode
  | plain
  | strong
  | weak
  | ended
  deriving DecidableEq

/-- How a variable's name is being read. -/
inductive Naming
  | none
  | bare
  | braced
  deriving DecidableEq

/-- A value that is being read. -/
structure Draft where
  mode : Mode := .plain
  escaped : Bool := false
  naming : Naming := .none
  name : List Char := []
  out : List Char := []

namespace Draft

/-- The value with a character more. -/
def push (d : Draft) (c : Char) : Draft := { d with out := d.out ++ [c] }

/-- The value with that of the named variable. -/
def substitute (look : String → String) (d : Draft) : Draft :=
  { d with naming := .none, name := [], out := d.out ++ (look (String.ofList d.name)).toList }

/-- The end of a value, refused inside quotes or braces. -/
def finish? (look : String → String) (d : Draft) : Option String :=
  if d.naming = .braced ∨ d.mode = .strong ∨ d.mode = .weak then none
  else some (String.ofList (d.substitute look).out)

/-- A character while a name is read. -/
def inName (look : String → String) (d : Draft) (c : Char) : Draft :=
  if Text.isAlphanumeric c then { d with name := d.name ++ [c] }
  else if d.naming = .braced then
    if c = '\x7d' then d.substitute look else { d with name := d.name ++ [c] }
  else if c = '\x7b' ∧ d.name = [] then { d with naming := .braced }
  else if c = '$' then { d.substitute look with naming := .bare }
  else (d.substitute look).push c

/-- A character that stands for itself or opens something. -/
def bare (d : Draft) (c : Char) : Draft :=
  if c = '$' then { d with naming := .bare }
  else if c = '\\' then { d with escaped := true }
  else if d.mode = .weak then if c = '"' then { d with mode := .plain } else d.push c
  else if c = '\'' then { d with mode := .strong }
  else if c = '"' then { d with mode := .weak }
  else if c = ' ' ∨ c = '\t' then { d with mode := .ended }
  else d.push c

/-- The character that an escape stands for. -/
def unescape? (c : Char) : Option Char :=
  if c = 'n' then some '\n'
  else if c = '\\' ∨ c = '\'' ∨ c = '"' ∨ c = '$' ∨ c = ' ' then some c
  else none

end Draft

/-- The value that the rest of a line writes. -/
def value? (look : String → String) (d : Draft) : List Char → Option String
  | [] => d.finish? look
  | c :: cs =>
    if d.mode = .ended then
      if c = ' ' ∨ c = '\t' then value? look d cs else if c = '#' then d.finish? look else none
    else if d.escaped then
      match Draft.unescape? c with
      | some c => value? look { d.push c with escaped := false } cs
      | none => none
    else if d.mode = .strong then
      value? look (if c = '\'' then { d with mode := .plain } else d.push c) cs
    else if d.naming ≠ .none then value? look (d.inName look c) cs
    else value? look (d.bare c) cs

/-- The name at the start of a list. -/
def name? (cs : List Char) : Option (String × List Char) :=
  match cs with
  | c :: _ =>
    if c.isAlpha || c == '_' then
      let inside (c : Char) : Bool := c.isAlphanum || c == '_' || c == '.'
      some (String.ofList (cs.takeWhile inside), (cs.dropWhile inside).dropWhile Text.isBlank)
    else none
  | [] => none

/-- The name that a line assigns, and what follows the equals sign; `export` may stand before it. -/
def target? (cs : List Char) : Option (String × List Char) := do
  let (name, rest) ← name? cs
  match name, rest with
  | name, '=' :: rest => some (name, rest)
  | "export", rest =>
    let (name, rest) ← name? rest
    match rest with
    | '=' :: rest => some (name, rest)
    | _ => none
  | _, _ => none

/-- What a line assigns; a line may assign nothing, or be no assignment at all. -/
def assignment? (look : String → String) (line : List Char) :
    Option (Option (String × String)) :=
  let blankOrComment (cs : List Char) : Bool := cs.isEmpty || cs.head? == some '#'
  let line := Text.trimmedChars line
  if blankOrComment line then some none
  else do
    let (name, rest) ← target? line
    let rest := rest.dropWhile Text.isBlank
    if blankOrComment rest then some (some (name, ""))
    else do
      let value ← value? look {} rest
      some (some (name, value))

/-- Variables and their values. -/
abbrev Variables : Type := List (String × String)

/-- Takes lines into an environment; `assigned` holds the assignments so far, the last first. -/
def loadLines (environment assigned : Variables) : List (Option (List Char)) → Variables
  | [] => environment
  | none :: _ => environment
  | some line :: rest =>
    let look (name : String) : String :=
      ((environment.lookup name).orElse fun _ => assigned.lookup name).getD ""
    match assignment? look line with
    | none => environment
    | some none => loadLines environment assigned rest
    | some (some (name, value)) =>
      let environment :=
        if (environment.lookup name).isSome then environment else environment ++ [(name, value)]
      loadLines environment ((name, value) :: assigned) rest

/-- The environment after a file. -/
def load (environment : Variables) (file : String) : Variables :=
  let cs := match file.toList with
    | '\ufeff' :: cs => cs
    | cs => cs
  loadLines environment [] (logicalLines [] .plain (physicalLines cs))

theorem lookup_append_of_isSome {es fs : Variables} {name : String}
    (h : (es.lookup name).isSome = true) : (es ++ fs).lookup name = es.lookup name := by
  induction es with
  | nil => simp at h
  | cons e es ih =>
    obtain ⟨n, v⟩ := e
    rw [List.cons_append, List.lookup_cons, List.lookup_cons]
    rw [List.lookup_cons] at h
    cases hn : name == n
    · rw [hn] at h
      exact ih h
    · rfl

theorem lookup_loadLines {name : String} (lines : List (Option (List Char))) :
    ∀ {environment assigned : Variables}, (environment.lookup name).isSome = true →
      (loadLines environment assigned lines).lookup name = environment.lookup name := by
  induction lines with
  | nil => intro environment assigned _; rfl
  | cons line lines ih =>
    intro environment assigned h
    cases line with
    | none => rfl
    | some line =>
      simp only [loadLines]
      split
      · rfl
      · exact ih h
      · split
        · exact ih h
        · rw [ih (by rw [lookup_append_of_isSome h]; exact h), lookup_append_of_isSome h]

/-- **A variable that is there keeps its value.** -/
theorem lookup_load {environment : Variables} {name : String} (file : String)
    (h : (environment.lookup name).isSome = true) :
    (load environment file).lookup name = environment.lookup name :=
  lookup_loadLines _ h

end Accounts.EnvFile
