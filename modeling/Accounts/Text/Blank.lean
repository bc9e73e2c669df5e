/-!
# Blanks

The white space of Unicode (property `White_Space`), and cutting it from the ends of a text.

* `isBlank`: the class;
* `trimmed`: a text without the blanks at both ends.
-/

namespace Accounts.Text

/-- White space, as Unicode has it. -/
def isBlank (c : Char) : Bool :=
  let n := c.toNat
  (0x09 ≤ n && n ≤ 0x0D) || n == 0x20 || n == 0x85 || n == 0xA0 || n == 0x1680 ||
    (0x2000 ≤ n && n ≤ 0x200A) || n == 0x2028 || n == 0x2029 || n == 0x202F || n == 0x205F ||
    n == 0x3000

/-- A list of characters without the blanks at its end. -/
def trimmedEnd (cs : List Char) : List Char := (cs.reverse.dropWhile isBlank).reverse

/-- A list of characters without the blanks at both ends. -/
def trimmedChars (cs : List Char) : List Char := trimmedEnd (cs.dropWhile isBlank)

/-- A text without the blanks at both ends. -/
def trimmed (s : String) : String := String.ofList (trimmedChars s.toList)

end Accounts.Text
