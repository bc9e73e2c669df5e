import Accounts.Json.Node
import Accounts.Decimal.Shortest
import Accounts.Text.Quoted

/-!
# What can be wrong with a value

A text that is JSON may still not say what its reader asks for. A fault is the cause; its wording
is fixed here.

* `Found`, `Found.ofNode?`: the kind of value that stands in the text;
* `Fault`, `Fault.message`: the causes;
* `ReadError`: the text is broken, or a fault at a place.
-/

namespace Accounts.Json

/-- The kind of value that a reader found. -/
inductive Found
  | null
  | bool (b : Bool)
  | integer (n : Int)
  | decimal (x : Float)
  | string (s : String)
  | sequence
  | mapping

namespace Found

/-- The kind of a node, or `none` where the text is broken before it can be told. -/
def ofNode? : Node → Option Found
  | .null => some .null
  | .bool b => some (.bool b)
  | .number n =>
    match n.number? with
    | some (.integer k) => some (.integer k)
    | some (.decimal x) => some (.decimal x)
    | none => none
  | .string s => s.map .string
  | .array _ _ => some .sequence
  | .object _ _ => some .mapping
  | .cut => none

/-- A word between the marks that stand around a literal. -/
def ticked (s : String) : String := "\x60" ++ s ++ "\x60"

/-- The wording of a kind. -/
def text : Found → String
  | .null => "null"
  | .bool true => "boolean " ++ ticked "true"
  | .bool false => "boolean " ++ ticked "false"
  | .integer n => "integer " ++ ticked (Decimal.ofInt n)
  | .decimal x => "floating point " ++ ticked (Decimal.pointText x)
  | .string s => "string " ++ Text.quotedForMessage s
  | .sequence => "sequence"
  | .mapping => "map"

end Found

/-- Why a value is not what its reader asks for. -/
inductive Fault
  | missingField (name : String)
  | duplicateField (name : String)
  | unknownVariant (name : String) (known : List String)
  | invalidType (found : Found) (expected : String)
  | invalidLength (length : Nat) (expected : String)
  | invalidValue (found : Found) (expected : String)
  | malformed (what : String)

/-- The choices of a message: one, two with "or", more as a list. -/
def choices : List String → String
  | [a] => Found.ticked a
  | [a, b] => Found.ticked a ++ " or " ++ Found.ticked b
  | names => "one of " ++ String.intercalate ", " (names.map Found.ticked)

/-- The wording of a fault. -/
def Fault.message : Fault → String
  | .missingField name => "missing field " ++ Found.ticked name
  | .duplicateField name => "duplicate field " ++ Found.ticked name
  | .unknownVariant name known =>
    "unknown variant " ++ Found.ticked name ++ ", expected " ++ choices known
  | .invalidType found expected => "invalid type: " ++ found.text ++ ", expected " ++ expected
  | .invalidLength n expected => "invalid length " ++ Decimal.ofNat n ++ ", expected " ++ expected
  | .invalidValue found expected => "invalid value: " ++ found.text ++ ", expected " ++ expected
  | .malformed what => "malformed " ++ what

/-- Where in a record a fault is. -/
inductive Location
  | field (name : String)
  | item (index : Nat)

/-- The wording of a location. -/
def Location.text : Location → String
  | .field name => name
  | .item index => "[" ++ Decimal.ofNat index ++ "]"

/-- Why a text cannot be read: it is no JSON, or a value in it is wrong. -/
inductive ReadError
  | broken
  | wrong (location : Option Location) (fault : Fault)

/-- The same error inside a record. -/
def ReadError.within (location : Location) : ReadError → ReadError
  | .broken => .broken
  | .wrong _ fault => .wrong (some location) fault

end Accounts.Json
