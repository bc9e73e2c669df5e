import Accounts.Decimal.Reading
import Accounts.Text.Alphanumeric
import Accounts.Text.Blank
import Accounts.Text.Pieces

/-!
# Filters of the log

A filter is a list of directives with commas between them. A directive sets a level, for everything
or for targets with a given start, and may ask for a span or for fields.

* `LogLevel.parse?`: a level by name or number;
* `Directive.parse`: a directive;
* `LogFilter.parse`: a filter; of equal directives the last counts;
* `LogFilter.enables`: whether an event passes, by the most specific directive that cares about it.
-/

namespace Accounts

/-- How much is logged; each level lets those before it pass too. -/
inductive LogLevel
  | off
  | error
  | warn
  | info
  | debug
  | trace
  deriving DecidableEq

namespace LogLevel

/-- All levels, from the least. -/
def all : List LogLevel := [.off, .error, .warn, .info, .debug, .trace]

/-- The place of a level among all. -/
def rank (l : LogLevel) : Nat := all.idxOf l

/-- The name of a level. -/
def name : LogLevel → String
  | .off => "off"
  | .error => "error"
  | .warn => "warn"
  | .info => "info"
  | .debug => "debug"
  | .trace => "trace"

/-- The level with a name, in any case, or with a number; an empty name is that of errors. -/
def parse? (s : String) : Option LogLevel :=
  let word := String.ofList (s.toList.map Char.toLower)
  let numbered := (Decimal.natural? UInt64.size s).bind fun n => all[n]?
  numbered.or (if word = "" then some .error else all.find? fun l => l.name = word)

end LogLevel

/-- Why a text is no filter. -/
inductive FilterFault
  | directive
  | level
  deriving DecidableEq

/-- The wording of a fault. -/
def FilterFault.message : FilterFault → String
  | .directive => "invalid filter directive"
  | .level =>
    "error parsing level filter: expected one of \"off\", \"error\", \"warn\", " ++
      "\"info\", \"debug\", \"trace\", or a number 0-5"

/-- A field that a directive asks for, with a value or with any. -/
structure FieldMatch where
  name : List Char
  valued : Bool
  deriving DecidableEq

/-- A directive; without a target or a span it is for all of them. -/
structure Directive where
  level : LogLevel := .trace
  target : Option (List Char) := none
  span : Option (List Char) := none
  fields : List FieldMatch := []

namespace Directive

/-- Where the reading of a directive is; the numbers are where a part starts. -/
inductive Place
  | start
  | levelOrTarget (start : Nat)
  | span (start : Nat)
  | field (start : Nat)
  | fields
  | target
  | level (start : Nat)

/-- The part of a text between two places. -/
def part (text : List Char) (a b : Nat) : List Char := (text.drop a).take (b - a)

/-- The field that a part asks for. -/
def fieldOf (cs : List Char) : FieldMatch :=
  match Text.cutFirst? '=' cs with
  | some (name, _) => ⟨name, true⟩
  | none => ⟨cs, false⟩

/-- A character at a place. Parts are cut from the whole text. -/
def step? (text : List Char) (i : Nat) (c : Char) (d : Directive) :
    Place → Option (Directive × Place)
  | .start =>
    if c = '[' then some (d, .span (i + 1))
    else if c = '-' ∨ c = ':' ∨ c = '_' ∨ Text.isAlphanumeric c = true then
      some (d, .levelOrTarget i)
    else none
  | .levelOrTarget a =>
    if c = '=' then some ({ d with target := some (part text a i) }, .level (i + 1))
    else if c = '[' then some ({ d with target := some (part text a i) }, .span (i + 1))
    else some (d, .levelOrTarget a)
  | .span a =>
    if c = ']' then some ({ d with span := some (part text a i) }, .target)
    else if c = '\x7b' then
      let name := part text a i
      some ({ d with span := if name = [] then none else some name }, .field (i + 1))
    else some (d, .span a)
  | .field a =>
    if c = '\x7d' then
      let name := part text a i
      if name = [] then none else some ({ d with fields := d.fields ++ [fieldOf name] }, .fields)
    else some (d, .field a)
  | .fields => if c = ']' then some (d, .target) else none
  | .target => if c = '=' then some (d, .level (i + 1)) else none
  | .level a => some (d, .level a)

/-- The level of a directive; without a text it is all. -/
def levelOf (cs : List Char) : Except FilterFault LogLevel :=
  if cs = [] then .ok .trace
  else
    match LogLevel.parse? (String.ofList cs) with
    | some l => .ok l
    | none => .error .level

/-- The end of a directive. A word alone is a level, or a target with all levels. -/
def finish (text : List Char) (d : Directive) : Place → Except FilterFault Directive
  | .levelOrTarget a =>
    match LogLevel.parse? (String.ofList (text.drop a)) with
    | some l => .ok { d with level := l }
    | none => .ok { d with target := some (text.drop a) }
  | .level a => (levelOf (text.drop a)).map fun l => { d with level := l }
  | .target => .ok d
  | _ => .error .directive

/-- The directive that the rest of a text makes. -/
def readFrom (text : List Char) (i : Nat) (d : Directive) (p : Place) :
    List Char → Except FilterFault Directive
  | [] => finish text d p
  | c :: cs =>
    match step? text i c d p with
    | none => .error .directive
    | some (d, p) => readFrom text (i + 1) d p cs

/-- The directive that a text makes. Places are counted without the blanks before the text, but
parts are cut from the text with them. -/
def parse (text : List Char) : Except FilterFault Directive :=
  readFrom text 0 {} .start (Text.trimmedChars text)

/-- A directive that does not look at spans or at values of fields. -/
def isStatic (d : Directive) : Bool := d.span.isNone && d.fields.all fun f => !f.valued

/-- The length of an optional target; none is shorter than the empty one. -/
def targetSize (d : Directive) : Nat :=
  match d.target with
  | some t => Text.byteCount t + 1
  | none => 0

/-- What a directive is for. -/
def subject (d : Directive) : Option (List Char) × List (List Char) :=
  (d.target, d.fields.map FieldMatch.name)

end Directive

/-- What is logged: where it comes from, its level, and the names of its fields. -/
structure LogEvent where
  target : String
  level : LogLevel
  fields : List String

/-- The directives that decide about events. -/
structure LogFilter where
  directives : List Directive := []

namespace LogFilter

/-- The filter of a text without directives: errors pass. -/
def errorsOnly : LogFilter := ⟨[{ level := .error }]⟩

/-- The filter that a text makes. -/
def parse (text : String) : Except FilterFault LogFilter := do
  let parts := (Text.pieces ',' text.toList).filter fun p => !p.isEmpty
  if parts.isEmpty then return errorsOnly
  return ⟨← parts.mapM Directive.parse⟩

/-- Whether a directive cares about an event. -/
def cares (e : LogEvent) (d : Directive) : Bool :=
  d.isStatic && (d.target.all fun t => t.isPrefixOf e.target.toList) &&
    d.fields.all fun f => e.fields.contains (String.ofList f.name)

/-- The first of two directives is more specific: by the length of its target, then by how many
fields it asks for. -/
def isMoreSpecific (d e : Directive) : Bool :=
  e.targetSize < d.targetSize ||
    (e.targetSize == d.targetSize && e.fields.length < d.fields.length)

/-- Of two directives about one event, the one that decides: the more specific one, and the later
one if they are for the same; among others the order of their fields decides. -/
def deciding (held : Option Directive) (d : Directive) : Option Directive :=
  match held with
  | none => some d
  | some e =>
    if isMoreSpecific e d then some e
    else if isMoreSpecific d e then some d
    else if e.subject = d.subject then some d
    else if e.fields.map FieldMatch.name < d.fields.map FieldMatch.name then some d
    else some e

/-- Whether an event passes. -/
def enables (f : LogFilter) (e : LogEvent) : Bool :=
  match (f.directives.filter (cares e)).foldl deciding none with
  | some d => e.level.rank ≤ d.level.rank
  | none => false

end LogFilter

end Accounts
