import Accounts.Text.Utf8

/-!
# Messages on the wire

Messages of remote calls are fields with numbers. A field with the value that it has when it is
absent is left out.

* `Wire.varint`: a number in groups of seven bits;
* `Wire.flag`, `Wire.text`: fields.
-/

namespace Accounts.Wire

/-- A number in groups of seven bits, lowest first; all but the last have the eighth bit. -/
def varint (n : Nat) : Bytes :=
  if h : n < 128 then [n.toUInt8]
  else (n % 128 + 128).toUInt8 :: varint (n / 128)

/-- A truth value under a number. -/
def flag (field : Nat) (b : Bool) : Bytes := if b then varint (field * 8) ++ [1] else []

/-- A text under a number. -/
def text (field : Nat) (s : String) : Bytes :=
  if s = "" then []
  else
    let bytes := Utf8.encode s
    varint (field * 8 + 2) ++ varint bytes.length ++ bytes

end Accounts.Wire
