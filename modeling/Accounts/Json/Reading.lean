import Accounts.Json.Fault
import Accounts.Json.Value

/-!
# Reading values out of a JSON text

Readers of scalars, free values and records. A reader walks the tree in the order of the text, so
of two errors the first in the text is reported. Members that nobody asked for are passed over: all
that matters is that the text is whole there.

* `readText`, `readInteger`, `readOptional`: scalars;
* `Json.ofNode?`: a free value, with the members of objects sorted and the last of equal names;
* `Record.fields`: the members of a record, written as an object or as an array in field order;
* `Document.read`: a whole text.
-/

namespace Accounts.Json

/-- The outcome of reading. -/
abbrev Reading (α : Type) : Type := Except ReadError α

/-- A value of another kind than the expected one. -/
def mismatch {α : Type} (expected : String) (node : Node) : Reading α :=
  match Found.ofNode? node with
  | some found => .error (.wrong none (.invalidType found expected))
  | none => .error .broken

/-- A value that nobody asks for. -/
def skip (node : Node) : Reading Unit := if node.isWhole then .ok () else .error .broken

/-- A text. -/
def readTextAs (expected : String) : Node → Reading String
  | .string (some s) => .ok s
  | node => mismatch expected node

/-- A text. -/
def readText : Node → Reading String := readTextAs "a string"

/-- An integer of 64 bits. -/
def readInteger : Node → Reading Int
  | .number n =>
    match n.number? with
    | some (.integer k) =>
      if k < Decimal.integerBound then .ok k else .error (.wrong none (.invalidValue (.integer k) "i64"))
    | _ => mismatch "i64" (.number n)
  | node => mismatch "i64" node

/-- A text in a form of its own. -/
def readFormatted {α : Type} (expected what : String) (parse : String → Option α) (node : Node) :
    Reading α := do
  let s ← readTextAs expected node
  match parse s with
  | some a => .ok a
  | none => .error (.wrong none (.malformed what))

/-- A value that may be null. -/
def readOptional {α : Type} (read : Node → Reading α) : Node → Reading (Option α)
  | .null => .ok none
  | node => (read node).map some

/-- Null. -/
def readNull : Node → Reading Unit
  | .null => .ok ()
  | node => mismatch "unit" node

/-- The items of a list. -/
def readItems {α : Type} (read : Node → Reading α) (expected : String) : Node → Reading (List α)
  | .array items closed => do
    let values ← items.mapM read
    if closed then .ok values else .error .broken
  | node => mismatch expected node

/-- The choice that a name makes. -/
def readChoice {α : Type} (options : List (String × α)) (name : String) : Reading α :=
  match options.lookup name with
  | some a => .ok a
  | none => .error (.wrong none (.unknownVariant name (options.map Prod.fst)))

/-- A choice by name, written as the name or as an object with the name and null. -/
def readNamed {α : Type} (options : List (String × α)) : Node → Reading α
  | .string (some s) => readChoice options s
  | .object ((some name, v) :: more) closed => do
    let a ← readChoice options name
    readNull v
    if more.isEmpty && closed then .ok a else .error .broken
  | .object ((none, v) :: _) _ => mismatch "variant identifier" v
  | _ => .error .broken

mutual

/-- A free value, at most `depth` brackets deep. -/
def ofNode? (depth : Nat) : Node → Option Json
  | .null => some .null
  | .bool b => some (.bool b)
  | .number n =>
    match n.number? with
    | some (.integer k) => some (.integer k)
    | some (.decimal x) => some (.decimal x)
    | none => none
  | .string s => s.map .string
  | .array items closed =>
    match depth with
    | 0 => none
    | depth + 1 => if closed then (ofNodes? depth items).map .array else none
  | .object members closed =>
    match depth with
    | 0 => none
    | depth + 1 =>
      if closed then
        (ofMembers? depth members).map fun ms => .object (ms.mergeSort fun a b => a.1 ≤ b.1)
      else none
  | .cut => none

/-- The items of a free array. -/
def ofNodes? (depth : Nat) : List Node → Option (List Json)
  | [] => some []
  | n :: rest => do
    let v ← ofNode? depth n
    let vs ← ofNodes? depth rest
    some (v :: vs)

/-- The members of a free object; of equal names the last counts. -/
def ofMembers? (depth : Nat) : List (Option String × Node) → Option (List (String × Json))
  | [] => some []
  | (k, n) :: rest => do
    let name ← k
    let v ← ofNode? depth n
    let vs ← ofMembers? depth rest
    some (if (vs.lookup name).isSome then vs else (name, v) :: vs)

end

/-- A free value inside a record. -/
def readFree (node : Node) : Reading Json :=
  match ofNode? 126 node with
  | some v => .ok v
  | none => .error .broken

/-- A member of a record: its name, whether its value is what it should be, and whether it may be
left out of an object and of an array. -/
structure Field where
  name : String
  check : Node → Reading Unit
  optional : Bool
  optionalItem : Bool

namespace Field

variable {α : Type}

/-- A member that must be there. -/
def required (name : String) (read : Node → Reading α) : Field :=
  ⟨name, fun n => (read n).map fun _ => (), false, false⟩

/-- A member with a value for its absence. -/
def withDefault (name : String) (read : Node → Reading α) : Field :=
  ⟨name, fun n => (read n).map fun _ => (), true, true⟩

/-- A member that an object may leave out. -/
def nullable (name : String) (read : Node → Reading α) : Field :=
  ⟨name, fun n => (readOptional read n).map fun _ => (), true, false⟩

end Field

/-- The values that a record's text gives to its fields. -/
abbrev Fields : Type := List (String × Node)

namespace Record

/-- The members of a record in the order of the text, added to those that came before. -/
def ofMembers (fields : List Field) (seen : Fields) : List (Option String × Node) → Reading Fields
  | [] => .ok seen
  | (none, _) :: _ => .error .broken
  | (some name, v) :: rest =>
    match fields.find? fun f => f.name == name with
    | none => do
      skip v
      ofMembers fields seen rest
    | some f =>
      if (seen.lookup name).isSome then .error (.wrong none (.duplicateField name))
      else do
        (f.check v).mapError (ReadError.within (.field name))
        ofMembers fields ((name, v) :: seen) rest

/-- The first field that is missing. -/
def firstMissing? (fields : List Field) (seen : Fields) : Option Field :=
  fields.find? fun f => !f.optional && (seen.lookup f.name).isNone

/-- What a record with a given name and number of fields is called. -/
def expectation (name : String) (count : Nat) : String :=
  "struct " ++ name ++ " with " ++ Decimal.ofNat count ++
    (if count = 1 then " element" else " elements")

/-- The fields of a record in field order, from field `index` on. -/
def ofItems (name : String) (count : Nat) : (fields : List Field) → (index : Nat) → List Node →
    (closed : Bool) → Reading Fields
  | [], _, items, closed => if items.isEmpty && closed then .ok [] else .error .broken
  | f :: fs, index, [], closed =>
    if !closed then .error .broken
    else if f.optionalItem then ofItems name count fs (index + 1) [] closed
    else .error (.wrong none (.invalidLength index (expectation name count)))
  | f :: fs, index, v :: rest, closed => do
    (f.check v).mapError (ReadError.within (.item index))
    let more ← ofItems name count fs (index + 1) rest closed
    .ok ((f.name, v) :: more)

/-- The fields of a record, written as an object or as an array. -/
def fields (name : String) (fs : List Field) : Node → Reading Fields
  | .object members closed => do
    let seen ← ofMembers fs [] members
    if !closed then .error .broken
    else
      match firstMissing? fs seen with
      | some f => .error (.wrong none (.missingField f.name))
      | none => .ok seen
  | .array items closed => ofItems name fs.length fs 0 items closed
  | node => mismatch ("struct " ++ name) node

end Record

namespace Fields

variable {α : Type}

/-- The value of a field. -/
def get (seen : Fields) (name : String) (read : Node → Reading α) : Reading α :=
  match seen.lookup name with
  | some v => read v
  | none => .error (.wrong none (.missingField name))

/-- The value of a field, or the value for its absence. -/
def getD (seen : Fields) (name : String) (read : Node → Reading α) (absent : α) : Reading α :=
  match seen.lookup name with
  | some v => read v
  | none => .ok absent

/-- The value of a field that may be absent or null. -/
def get? (seen : Fields) (name : String) (read : Node → Reading α) : Reading (Option α) :=
  getD seen name (readOptional read) none

end Fields

/-- The value of a whole text. -/
def Document.read {α : Type} (reader : Node → Reading α) (doc : Document) : Reading α := do
  let a ← reader doc.root
  if doc.complete then .ok a else .error .broken

/-- A free value from a text, at most 127 brackets deep. -/
def ofText? (s : String) : Option Json :=
  let doc := Document.ofText s
  if doc.complete then ofNode? 127 doc.root else none

/-- A free value from a byte string, however deep. -/
def ofBytes? (bytes : Bytes) : Option Json :=
  let doc := Document.ofBytes bytes
  if doc.complete then ofNode? bytes.length doc.root else none

end Accounts.Json
