import Accounts.Http.Headers
import Accounts.Text.Digit

/-!
# Requests

* `Request`: method, target, headers and body;
* `targetPath`: the path in a target;
* `percentDecoded`: the bytes that a part of a path stands for.
-/

namespace Accounts

/-- What a caller sends. -/
structure Request where
  method : String
  target : String
  headers : Headers := []
  body : Bytes := []

/-- What follows the scheme of an absolute target. -/
def afterScheme? : List Char → Option (List Char)
  | ':' :: '/' :: '/' :: cs => some cs
  | _ :: cs => afterScheme? cs
  | [] => none

/-- The path of a target, without host and query. -/
def targetPath (target : String) : String :=
  let whole := target.toList.takeWhile fun c => c ≠ '?' ∧ c ≠ '#'
  let path :=
    match whole, afterScheme? whole with
    | '/' :: _, _ => whole
    | _, none => whole
    | _, some rest =>
      match rest.dropWhile (· ≠ '/') with
      | [] => ['/']
      | path => path
  String.ofList path

/-- The path of a request. -/
def Request.path (r : Request) : String := targetPath r.target

/-- The bytes that a part of a path stands for: a percent sign with two digits is a byte, and one
without stands for itself. -/
def percentDecoded : List Char → Bytes
  | '%' :: a :: b :: cs =>
    match Text.hexDigit? a, Text.hexDigit? b with
    | some x, some y => (16 * x + y).toUInt8 :: percentDecoded cs
    | _, _ => 37 :: percentDecoded (a :: b :: cs)
  | c :: cs => String.utf8EncodeChar c ++ percentDecoded cs
  | [] => []

end Accounts
