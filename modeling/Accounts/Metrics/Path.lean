import Accounts.Text.Pieces
import Accounts.Decimal.Natural

/-!
# Labels of paths

The label of a path has one name for all identifiers: a segment that looks like one is replaced.

* `isIdentifierLike`: the segments that are replaced;
* `pathLabel`: the label.
-/

namespace Accounts

/-- A segment is taken for an identifier if it is all digits, or 36 bytes with four hyphens. -/
def isIdentifierLike (segment : List Char) : Bool :=
  (Text.byteCount segment == 36 && segment.count '-' == 4) ||
    (!segment.isEmpty && segment.all Decimal.isDigit)

/-- The label of a segment. -/
def segmentLabel (segment : List Char) : List Char :=
  if isIdentifierLike segment then [':', 'i', 'd'] else segment

/-- The label of a path. -/
def pathLabel (path : String) : String :=
  String.ofList (Text.joined ['/'] ((Text.pieces '/' path.toList).map segmentLabel))

end Accounts
