import Accounts.Text.Lowercase

/-!
# The tree of settings

Settings come in layers: built-in values, a file, the environment. Each layer is laid on a tree;
what it does not name stays.

* `Scalar`, `Tree`: values with the place they come from, lists, and tables;
* `Tree.put`: a value under a name, where the entries of a table are laid on one by one;
* **`lookup_put_of_ne`**: a put under one name leaves the others.
-/

namespace Accounts.Settings

/-- A single value. -/
inductive Scalar
  | nothing
  | bool (b : Bool)
  | integer (n : Int)
  | float (x : Float)
  | text (s : String)

/-- A value of the settings, with the layer that it comes from; tables that layers are merged into
come from none. -/
inductive Tree
  | scalar (value : Scalar) (origin : Option String)
  | list (items : List Tree) (origin : Option String)
  | table (entries : List (String × Tree)) (origin : Option String)

instance : Inhabited Tree := ⟨.scalar .nothing none⟩

namespace Tree

/-- The entries of a table. -/
abbrev Entries : Type := List (String × Tree)

/-- The entries of a table, none of anything else. -/
def entries : Tree → Entries
  | .table entries _ => entries
  | _ => []

/-- The layer of a table. -/
def tableOrigin : Tree → Option String
  | .table _ origin => origin
  | _ => none

/-- A table with other entries. -/
def withEntries (t : Tree) (entries : Entries) : Tree := .table entries t.tableOrigin

/-- The table that stands under a name, or a new one. -/
def tableAt (here : Entries) (name : String) : Tree := (here.lookup name).getD (.table [] none)

/-- The entries with one value under a name. -/
def setEntry (name : String) (t : Tree) : Entries → Entries
  | [] => [(name, t)]
  | (n, u) :: rest => if n = name then (name, t) :: rest else (n, u) :: setEntry name t rest

mutual

/-- A value under a name in lower case. The entries of a table are put one by one into the table
that stands there; an empty table changes nothing that stands there. -/
def put (here : Entries) (name : String) : Tree → Entries
  | .table [] _ =>
    let low := Text.lowercase name
    setEntry low (tableAt here low) here
  | .table (e :: es) _ =>
    let low := Text.lowercase name
    let there := tableAt here low
    setEntry low (there.withEntries (putAll there.entries (e :: es))) here
  | t => setEntry (Text.lowercase name) t here

/-- Several values, each under its name. -/
def putAll (here : Entries) : Entries → Entries
  | [] => here
  | (name, t) :: rest => putAll (put here name t) rest

end

theorem lookup_setEntry_self (name : String) (t : Tree) (es : Entries) :
    (setEntry name t es).lookup name = some t := by
  induction es with
  | nil => simp [setEntry]
  | cons e es ih =>
    obtain ⟨n, u⟩ := e
    simp only [setEntry]
    split
    · simp
    · rename_i h
      have h' : ¬ name = n := fun e => h e.symm
      simp [List.lookup_cons, beq_eq_false_iff_ne.mpr h', ih]

theorem lookup_setEntry_of_ne {name other : String} (h : other ≠ name) (t : Tree) (es : Entries) :
    (setEntry name t es).lookup other = es.lookup other := by
  induction es with
  | nil => simp [setEntry, List.lookup_cons, beq_eq_false_iff_ne.mpr h]
  | cons e es ih =>
    obtain ⟨n, u⟩ := e
    simp only [setEntry]
    split
    · rename_i hn
      subst hn
      simp [List.lookup_cons, beq_eq_false_iff_ne.mpr h]
    · simp only [List.lookup_cons, ih]

/-- **A put leaves the other names as they are.** -/
theorem lookup_put_of_ne {name other : String} (h : other ≠ Text.lowercase name) (t : Tree)
    (here : Entries) : (put here name t).lookup other = here.lookup other := by
  unfold put
  split <;> exact lookup_setEntry_of_ne h _ _

end Tree

end Accounts.Settings
