import Accounts.Decimal.Reading
import Accounts.Settings.Tree

/-!
# Keys with several steps

The name of a setting may lead through tables and lists: `auth.issuer`, `list[0].name`.

* `Step`, `KeyPath`, `KeyPath.parse?`: the steps of a key;
* `Tree.putAt`: a value at the end of a path, with the tables and lists on the way made new where
  something else stands there;
* `Tree.putKey`: the same by the text of the key, which is one name if it is no path.
-/

namespace Accounts.Settings

/-- One step into a value. -/
inductive Step
  | name (n : String)
  | index (i : Int)

/-- The first name of a key and the steps after it. -/
structure KeyPath where
  first : String
  steps : List Step

namespace KeyPath

/-- A character of a name. -/
def isNameChar (c : Char) : Bool :=
  c.isAlphanum || c == '_' || c == '-' || c == ' '

/-- A name at the start of a list. -/
def name? (cs : List Char) : Option (String × List Char) :=
  match cs.takeWhile isNameChar with
  | [] => none
  | n => some (String.ofList n, cs.dropWhile isNameChar)

/-- What follows blanks. -/
def afterBlanks (cs : List Char) : List Char := cs.dropWhile fun c => c = ' ' ∨ c = '\t'

/-- The index in brackets, after the first of them. -/
def index? (cs : List Char) : Option (Int × List Char) := do
  let (negative, cs) := match afterBlanks cs with
    | '-' :: cs => (true, cs)
    | cs => (false, cs)
  let n ← Decimal.integer? (String.ofList (cs.takeWhile Decimal.isDigit))
  match afterBlanks (cs.dropWhile Decimal.isDigit) with
  | ']' :: rest => some (if negative then -n else n, rest)
  | _ => none

/-- The steps of the rest of a key. -/
def steps? : (budget : Nat) → List Char → Option (List Step)
  | _, [] => some []
  | 0, _ => none
  | budget + 1, '.' :: cs => do
    let (n, rest) ← name? cs
    return .name n :: (← steps? budget rest)
  | budget + 1, '[' :: cs => do
    let (i, rest) ← index? cs
    return .index i :: (← steps? budget rest)
  | _ + 1, _ => none

/-- The path that a key writes. -/
def parse? (key : String) : Option KeyPath := do
  let (first, rest) ← name? key.toList
  return ⟨first, ← steps? rest.length rest⟩

end KeyPath

namespace Tree

/-- The place of an index, which counts from the end if it is negative. -/
def place (i : Int) (length : Nat) : Nat := (if i < 0 then length + i else i).toNat

/-- A list that has an item at a place. -/
def reaching (items : List Tree) (place : Nat) : List Tree :=
  items ++ List.replicate (place + 1 - items.length) default

/-- A value with another at the end of some steps. -/
def change (new : Tree) : List Step → Tree → Tree
  | [], _ => new
  | [.name n], t => t.withEntries (put t.entries n new)
  | .name n :: steps, t =>
    t.withEntries (setEntry n (change new steps ((t.entries.lookup n).getD default)) t.entries)
  | .index i :: steps, t =>
    let (items, origin) := match t with
      | .list items origin => (items, origin)
      | _ => ([], none)
    let at' := place i items.length
    .list ((reaching items at').modify at' (change new steps)) origin

/-- A value at the end of a path. -/
def putAt (here : Entries) (path : KeyPath) (new : Tree) : Entries :=
  match path.steps with
  | [] => put here path.first new
  | steps => setEntry path.first (change new steps ((here.lookup path.first).getD default)) here

/-- A value under a key. -/
def putKey (here : Entries) (key : String) (new : Tree) : Entries :=
  match KeyPath.parse? key with
  | some path => putAt here path new
  | none => put here key new

end Tree

end Accounts.Settings
