import Accounts.Http.Request
import Accounts.Text.Pieces

/-!
# Types of bodies

A type is two words with a slash between them, and parameters after semicolons.

* `MediaType.parse?`: the two words of a type whose parameters are in order;
* `MediaType.isJson`: `application/json`, or a subtype of `application` that ends in `+json`.
-/

namespace Accounts.MediaType

/-- A character of a word. -/
def isWordChar (c : Char) : Bool :=
  c.isAlphanum || "!#$%&'*+-.^_\x60|~".toList.contains c

/-- A character between quotes, but for the quote and the backslash. -/
def isQuotedChar (c : Char) : Bool := 32 ≤ c.toNat && c.toNat != 127

/-- What follows the closing quote of a value that has a character. -/
def afterQuoted? : (fresh : Bool) → List Char → Option (List Char)
  | _, '\\' :: c :: cs => if isQuotedChar c then afterQuoted? false cs else none
  | false, '"' :: cs => some cs
  | _, c :: cs => if isQuotedChar c && c ≠ '\\' then afterQuoted? false cs else none
  | _, [] => none

/-- Whether a list after a semicolon is parameters, each a name, an equals sign and a value that is
a word or stands in quotes. Blanks may stand before a name and after quotes. -/
def areParameters : (budget : Nat) → List Char → Bool
  | _, [] => true
  | 0, _ => false
  | budget + 1, cs =>
    let cs := cs.dropWhile (· = ' ')
    match cs.takeWhile isWordChar, cs.dropWhile isWordChar with
    | _ :: _, '=' :: '"' :: value =>
      match (afterQuoted? true value).map (·.dropWhile (· = ' ')) with
      | some [] => true
      | some (';' :: rest) => areParameters budget rest
      | _ => false
    | _ :: _, '=' :: value =>
      match value.takeWhile isWordChar, value.dropWhile isWordChar with
      | _, [] => true
      | _ :: _, ';' :: rest => areParameters budget rest
      | _, _ => false
    | _, _ => false

/-- The type and the subtype in lower case. -/
def parse? (s : String) : Option (List Char × List Char) :=
  let cs := s.toList
  match cs.takeWhile isWordChar, cs.dropWhile isWordChar with
  | kind, '/' :: rest =>
    let subtype := rest.takeWhile isWordChar
    let inOrder := match rest.dropWhile isWordChar with
      | [] => true
      | ';' :: parameters => !subtype.isEmpty && areParameters parameters.length parameters
      | _ => false
    if !kind.isEmpty && inOrder then
      some (kind.map Char.toLower, subtype.map Char.toLower)
    else none
  | _, _ => none

/-- The two sides of the last plus sign that is not the first character. -/
def suffixed (subtype : List Char) : List Char × Option (List Char) :=
  match subtype with
  | [] => ([], none)
  | c :: cs =>
    match Text.cutLast? '+' cs with
    | some (base, suffix) => (c :: base, some suffix)
    | none => (subtype, none)

/-- Whether a type says that a body is JSON. -/
def isJson (s : String) : Bool :=
  match parse? s with
  | some (kind, subtype) =>
    let json := ['j', 's', 'o', 'n']
    let (base, suffix) := suffixed subtype
    kind == "application".toList && (base == json || suffix == some json)
  | none => false

end Accounts.MediaType
