import Switchboard.Text.Split

/-!
# Blanks

The blanks are the characters with the property White_Space: they are what is trimmed from names,
routes and types before those are compared.
-/

namespace Switchboard
namespace Text

/-- The code points with the property White_Space. -/
def isBlank (c : Char) : Bool :=
  let n := c.toNat
  (9 ≤ n && n ≤ 13) || n == 0x20 || n == 0x85 || n == 0xA0 || n == 0x1680 ||
    (0x2000 ≤ n && n ≤ 0x200A) || n == 0x2028 || n == 0x2029 || n == 0x202F || n == 0x205F ||
    n == 0x3000

/-- The string without the blanks at its two ends. -/
def trim (s : String) : String :=
  trimBy isBlank s

/-- The trimmed string, unless nothing is left of it. -/
def nonBlank? (s : String) : Option String :=
  let trimmed := trim s
  if trimmed.isEmpty then none else some trimmed

end Text
end Switchboard
