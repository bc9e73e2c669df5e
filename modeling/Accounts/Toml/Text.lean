import Accounts.Text.Digit

/-!
# Strings and keys of TOML

Four kinds of strings, between one or three quotes and with or without escapes, and bare keys.

* `basicString?`, `literalString?`, `longBasic?`, `longLiteral?`: what follows the opening quotes;
* `string?`: a string of any kind;
* `key?`: a dotted key.
-/

namespace Accounts.Toml

/-- A character that may stand in text: a tab, or one that is no control. -/
def isPlain (c : Char) : Bool := c == '\t' || (0x20 ≤ c.toNat && c != '\x7f')

/-- Blanks inside a line. -/
def isGap (c : Char) : Bool := c == ' ' || c == '\t'

/-- What follows blanks inside a line. -/
def afterGap (cs : List Char) : List Char := cs.dropWhile isGap

/-- How long the line end at the start of a list is, or `none` without one. -/
def lineEnd? : List Char → Option Nat
  | '\n' :: _ => some 1
  | '\r' :: '\n' :: _ => some 2
  | _ => none

/-- The character whose number is written in `count` digits of base sixteen. -/
def scalar? (count : Nat) (cs : List Char) : Option Char := do
  let ds ← (cs.take count).mapM Text.hexDigit?
  if ds.length ≠ count then none
  let n := Text.valueIn 16 ds
  if h : n.isValidChar then some (Char.ofNatAux n h) else none

/-- What an escape stands for, read after its backslash, and how many characters it takes. -/
def escape? : List Char → Option (Char × Nat)
  | [] => none
  | c :: cs =>
    if c = 'b' then some ('\x08', 1)
    else if c = 't' then some ('\t', 1)
    else if c = 'n' then some ('\n', 1)
    else if c = 'f' then some ('\x0c', 1)
    else if c = 'r' then some ('\r', 1)
    else if c = '"' then some ('"', 1)
    else if c = '\\' then some ('\\', 1)
    else if c = 'u' then (scalar? 4 cs).map (·, 5)
    else if c = 'U' then (scalar? 8 cs).map (·, 9)
    else none

/-- A string on one line with escapes, after its quote and once `skip` characters are passed. -/
def basicString? : (skip : Nat) → (acc : List Char) → List Char →
    Option (List Char × List Char)
  | _, _, [] => none
  | skip + 1, acc, _ :: cs => basicString? skip acc cs
  | 0, acc, c :: cs =>
    if c = '"' then some (acc.reverse, cs)
    else if c = '\\' then
      match escape? cs with
      | some (e, used) => basicString? used (e :: acc) cs
      | none => none
    else if isPlain c then basicString? 0 (c :: acc) cs
    else none

/-- A string on one line without escapes, after its quote. -/
def literalString? (acc : List Char) : List Char → Option (List Char × List Char)
  | [] => none
  | c :: cs =>
    if c = '\'' then some (acc.reverse, cs)
    else if isPlain c then literalString? (c :: acc) cs
    else none

/-- How many of the quotes at the start of a list belong to the text, if they end it: three end it,
and up to two may stand before these. -/
def closing? (q : Char) (cs : List Char) : Option Nat :=
  let run := (cs.takeWhile (· == q)).length
  if 3 ≤ run then some (min run 5 - 3) else none

/-- The blanks and line ends after a backslash at the end of a line, counted. -/
def trimmedEnd? (cs : List Char) : Option Nat :=
  let gap := cs.takeWhile isGap
  match lineEnd? (cs.drop gap.length) with
  | none => none
  | some _ =>
    some (cs.takeWhile fun c => isGap c || c == '\n' || c == '\r').length

/-- A string of many lines with escapes, after its quotes and once `skip` characters are passed. -/
def longBasic? : (skip : Nat) → (acc : List Char) → List Char → Option (List Char × List Char)
  | _, _, [] => none
  | skip + 1, acc, _ :: cs => longBasic? skip acc cs
  | 0, acc, c :: cs =>
    match lineEnd? (c :: cs) with
    | some n => longBasic? (n - 1) ('\n' :: acc) cs
    | none =>
      if c = '"' then
        match closing? '"' (c :: cs) with
        | some extra => some (acc.reverse ++ List.replicate extra '"', cs.drop (extra + 2))
        | none => longBasic? 0 (c :: acc) cs
      else if c = '\\' then
        match trimmedEnd? cs, escape? cs with
        | some used, _ => longBasic? used acc cs
        | none, some (e, used) => longBasic? used (e :: acc) cs
        | none, none => none
      else if isPlain c then longBasic? 0 (c :: acc) cs
      else none

/-- A string of many lines without escapes, after its quotes and once `skip` characters are
passed. -/
def longLiteral? : (skip : Nat) → (acc : List Char) → List Char → Option (List Char × List Char)
  | _, _, [] => none
  | skip + 1, acc, _ :: cs => longLiteral? skip acc cs
  | 0, acc, c :: cs =>
    match lineEnd? (c :: cs) with
    | some n => longLiteral? (n - 1) ('\n' :: acc) cs
    | none =>
      if c = '\'' then
        match closing? '\'' (c :: cs) with
        | some extra => some (acc.reverse ++ List.replicate extra '\'', cs.drop (extra + 2))
        | none => longLiteral? 0 (c :: acc) cs
      else if isPlain c then longLiteral? 0 (c :: acc) cs
      else none

/-- How much of a line end directly after opening quotes is passed over. -/
def firstLineEnd (cs : List Char) : Nat := (lineEnd? cs).getD 0

/-- A string on one line. -/
def shortString? : List Char → Option (List Char × List Char)
  | '"' :: cs => basicString? 0 [] cs
  | '\'' :: cs => literalString? [] cs
  | _ => none

/-- A string of any kind. -/
def string? (cs : List Char) : Option (List Char × List Char) :=
  match cs with
  | '"' :: '"' :: '"' :: rest => longBasic? (firstLineEnd rest) [] rest
  | '\'' :: '\'' :: '\'' :: rest => longLiteral? (firstLineEnd rest) [] rest
  | _ => shortString? cs

/-- A character of a key without quotes. -/
def isBare (c : Char) : Bool := c.isAlphanum || c == '_' || c == '-'

/-- One part of a key. -/
def part? (cs : List Char) : Option (String × List Char) :=
  match shortString? cs with
  | some (s, rest) => some (String.ofList s, rest)
  | none =>
    let name := cs.takeWhile isBare
    if name = [] then none else some (String.ofList name, cs.drop name.length)

/-- The parts of a key with dots between them; blanks may stand around the dots. The budget bounds
their number. -/
def key? : (budget : Nat) → List Char → Option (List String × List Char)
  | 0, _ => none
  | budget + 1, cs => do
    let (name, rest) ← part? (afterGap cs)
    match afterGap rest with
    | '.' :: more =>
      let (names, rest) ← key? budget more
      some (name :: names, rest)
    | rest => some ([name], rest)

end Accounts.Toml
