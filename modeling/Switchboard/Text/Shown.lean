import Switchboard.Text.Case
import Switchboard.Text.ClusterTable
import Switchboard.Text.HiddenTable

/-!
# Showing a text in a message

A text in a message stands in quotes; quotes, backslashes and the common controls are escaped by a
letter, and characters that cannot be seen alone, hidden ones and combining marks, by their number.
-/

namespace Switchboard
namespace Text

/-- A combining mark; skin tones continue a cluster and are no marks. -/
def isMark (n : Nat) : Bool :=
  inRanges ClusterTable.extending n && !(0x1F3FB ≤ n && n ≤ 0x1F3FF)

def shownChar (c : Char) : List Char :=
  let n := c.toNat
  if n == 0 then ['\\', '0']
  else if n == 9 then ['\\', 't']
  else if n == 10 then ['\\', 'n']
  else if n == 13 then ['\\', 'r']
  else if c == '"' then ['\\', '"']
  else if c == '\\' then ['\\', '\\']
  else if 32 ≤ n && n < 127 then [c]
  else if n < 128 || isMark n || inRanges HiddenTable.hidden n then
    ['\\', 'u', '\x7b'] ++ Nat.toDigits 16 n ++ ['\x7d']
  else [c]

def shown (s : String) : String :=
  String.ofList ('"' :: (s.toList.flatMap shownChar ++ ['"']))

end Text
end Switchboard
