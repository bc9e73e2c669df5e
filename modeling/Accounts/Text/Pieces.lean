/-!
# Pieces of a text

Cutting a text at a separator and joining pieces again.

* `pieces`: the pieces between the separators, at least one;
* `joined`: pieces with the separator between them;
* `cutFirst?`, `cutLast?`: the two sides of the first and of the last separator;
* `dropStart?`: what follows a given start;
* `byteCount`: the length in bytes.
-/

namespace Accounts.Text

/-- The pieces of a list between the separators. A list without a separator is one piece. -/
def pieces (sep : Char) : List Char → List (List Char)
  | [] => [[]]
  | c :: cs =>
    if c = sep then [] :: pieces sep cs
    else
      match pieces sep cs with
      | p :: ps => (c :: p) :: ps
      | [] => [[c]]

/-- Pieces with the separator between them. -/
def joined (sep : List Char) : List (List Char) → List Char
  | [] => []
  | [p] => p
  | p :: ps => p ++ sep ++ joined sep ps

/-- The two sides of the first separator. -/
def cutFirst? (sep : Char) : List Char → Option (List Char × List Char)
  | [] => none
  | c :: cs => if c = sep then some ([], cs) else (cutFirst? sep cs).map fun (a, b) => (c :: a, b)

/-- The two sides of the last separator. -/
def cutLast? (sep : Char) : List Char → Option (List Char × List Char)
  | [] => none
  | c :: cs =>
    match cutLast? sep cs with
    | some (a, b) => some (c :: a, b)
    | none => if c = sep then some ([], cs) else none

/-- What follows a given start of a list. -/
def dropStart? : (start cs : List Char) → Option (List Char)
  | [], cs => some cs
  | a :: start, c :: cs => if a = c then dropStart? start cs else none
  | _ :: _, [] => none

/-- How many bytes the characters take. -/
def byteCount : List Char → Nat
  | [] => 0
  | c :: cs => c.utf8Size + byteCount cs

theorem byteCount_append (cs ds : List Char) :
    byteCount (cs ++ ds) = byteCount cs + byteCount ds := by
  induction cs with
  | nil => simp [byteCount]
  | cons c cs ih => simp [byteCount, ih, Nat.add_assoc]

theorem pieces_ne_nil (sep : Char) (cs : List Char) : pieces sep cs ≠ [] := by
  cases cs with
  | nil => simp [pieces]
  | cons c cs =>
    simp only [pieces]
    split
    · simp
    · split <;> simp

end Accounts.Text
