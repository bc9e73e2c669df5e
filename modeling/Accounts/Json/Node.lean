import Accounts.Json.Token

/-!
# What a JSON text says

The tree of a text in the order of the text. Where the text goes wrong the tree ends: every array
and object around that place stays open. A reader that walks the tree in order so meets a fault of
the content before the fault of the text exactly when the content comes first.

* `Node`: the tree, with numbers as written and strings that may be unreadable;
* `Node.isWhole`: the text went wrong nowhere inside;
* `Document.ofText`, `Document.ofBytes`: the tree of a text, and whether nothing but blanks follows
  it.
-/

namespace Accounts.Json

/-- The tree of a JSON text. A member without a name has a name that cannot be read; its value is
then what was written as the name, if that was no string. -/
inductive Node
  | null
  | bool (b : Bool)
  | number (n : Numeral)
  | string (s : Option String)
  | array (items : List Node) (closed : Bool)
  | object (members : List (Option String × Node)) (closed : Bool)
  | cut

/-- The text went wrong nowhere inside. What surrounds the fault is never closed, so the outermost
brackets tell. -/
def Node.isWhole : Node → Bool
  | .array _ closed => closed
  | .object _ closed => closed
  | .cut => false
  | _ => true

/-- An array or object that is being read; what is done stands in reverse. -/
inductive Frame
  | items (done : List Node)
  | members (done : List (Option String × Node))
  | member (done : List (Option String × Node)) (name : Option String)

/-- What may come next. -/
inductive Place
  | value
  | itemOrEnd
  | nameOrEnd
  | name
  | colon
  | done (v : Node)

/-- The node of a token that is a value or opens one. -/
def Token.node? : Token → Option Node
  | .null => some .null
  | .bool b => some (.bool b)
  | .number n => some (.number n)
  | .string s => some (.string s)
  | .leftBracket => some (.array [] false)
  | .leftBrace => some (.object [] false)
  | _ => none

/-- A value starts. -/
def open? (frames : List Frame) : Token → Option (Place × List Frame)
  | .leftBracket => some (.itemOrEnd, .items [] :: frames)
  | .leftBrace => some (.nameOrEnd, .members [] :: frames)
  | t => t.node?.map fun v => (.done v, frames)

/-- One token further, or `none` where it may not stand. -/
def Place.step? : Place → List Frame → Token → Option (Place × List Frame)
  | .value, frames, t => open? frames t
  | .itemOrEnd, .items _ :: frames, .rightBracket => some (.done (.array [] true), frames)
  | .itemOrEnd, frames, t => open? frames t
  | .nameOrEnd, .members _ :: frames, .rightBrace => some (.done (.object [] true), frames)
  | .nameOrEnd, .members prior :: frames, .string s => some (.colon, .member prior s :: frames)
  | .name, .members prior :: frames, .string s => some (.colon, .member prior s :: frames)
  | .colon, frames, .colon => some (.value, frames)
  | .done v, .items prior :: frames, .comma => some (.value, .items (v :: prior) :: frames)
  | .done v, .items prior :: frames, .rightBracket =>
    some (.done (.array (v :: prior).reverse true), frames)
  | .done v, .member prior k :: frames, .comma =>
    some (.name, .members ((k, v) :: prior) :: frames)
  | .done v, .member prior k :: frames, .rightBrace =>
    some (.done (.object ((k, v) :: prior).reverse true), frames)
  | _, _, _ => none

/-- The tree when the text goes wrong after `v`, if a value stands there, inside the frames. -/
def abandon : Option Node → List Frame → Node
  | v, [] => v.getD .cut
  | v, .items done :: frames =>
    abandon (some (.array (v.toList ++ done).reverse false)) frames
  | v, .members done :: frames =>
    abandon (some (.object (v.toList.map (none, ·) ++ done).reverse false)) frames
  | v, .member done k :: frames =>
    abandon (some (.object ((k, v.getD .cut) :: done).reverse false)) frames

/-- The value that stands at the place where the text goes wrong before the token `t`. A name that
is written as another value is kept as one. -/
def Place.leftover : Place → Token → Option Node
  | .done v, _ => some v
  | .name, t => t.node?
  | .nameOrEnd, t => t.node?
  | _, _ => none

/-- A tree, and whether nothing but blanks follows it. -/
structure Document where
  root : Node
  complete : Bool

namespace Document

/-- The document of the tokens that follow a place inside the frames. -/
def resume : Place → List Frame → List Token → Document
  | .done v, [], [] => ⟨v, true⟩
  | .done v, [], _ :: _ => ⟨v, false⟩
  | place, frames, [] => ⟨abandon (place.leftover .stray) frames, false⟩
  | place, frames, t :: rest =>
    match place.step? frames t with
    | some (place', frames') => resume place' frames' rest
    | none => ⟨abandon (place.leftover t) frames, false⟩

/-- The document of a list of symbols. -/
def ofSymbols (s : List Utf8.Symbol) : Document := resume .value [] (Token.list s)

/-- The document of a byte string. -/
def ofBytes (bytes : Bytes) : Document := ofSymbols (Utf8.symbols bytes)

/-- The document of a text. -/
def ofText (s : String) : Document := ofSymbols (s.toList.map some)

end Document

end Accounts.Json
