import Switchboard.Json.Value
import Switchboard.Decimal.Layout

/-!
# Writing JSON

Two spellings of a value: the compact one without white space, and the indented one with two blanks
for each level, one element or field a line and empty containers closed at once.  Only quotes,
backslashes and control characters are escaped.
-/

namespace Switchboard
namespace Json

/-- The hexadecimal digit of a number below sixteen. -/
def hexDigit (n : Nat) : Char :=
  if n < 10 then Char.ofNat ('0'.toNat + n) else Char.ofNat ('a'.toNat + (n - 10))

/-- A character as it stands in a quoted text. -/
def escaped (c : Char) : List Char :=
  if c == '"' then ['\\', '"']
  else if c == '\\' then ['\\', '\\']
  else if c.toNat == 8 then ['\\', 'b']
  else if c.toNat == 9 then ['\\', 't']
  else if c.toNat == 10 then ['\\', 'n']
  else if c.toNat == 12 then ['\\', 'f']
  else if c.toNat == 13 then ['\\', 'r']
  else if c.toNat < 32 then
    ['\\', 'u', '0', '0', hexDigit (c.toNat / 16), hexDigit (c.toNat % 16)]
  else [c]

/-- A text in quotes. -/
def quoted (s : String) : List Char :=
  '"' :: (s.toList.flatMap escaped ++ ['"'])

/-- A value that is neither an array nor an object. -/
def scalar : Value → List Char
  | .null => "null".toList
  | .bool true => "true".toList
  | .bool false => "false".toList
  | .integer n => (toString n).toList
  | .double (.finite negative mantissa exponent) =>
    (Decimal.Layout.json.render (.finite negative mantissa exponent)).toList
  | .double _ => "null".toList
  | .text s => quoted s
  | .array _ => "[]".toList
  | .object _ => ['\x7b', '\x7d']

mutual

/-- The spelling without white space. -/
def compact : Value → List Char
  | .array items => '[' :: (compactItems items ++ [']'])
  | .object fields => '\x7b' :: (compactFields fields ++ ['\x7d'])
  | .null => scalar .null
  | .bool value => scalar (.bool value)
  | .integer value => scalar (.integer value)
  | .double value => scalar (.double value)
  | .text value => scalar (.text value)

/-- The elements of an array with commas between them. -/
def compactItems : List Value → List Char
  | [] => []
  | [item] => compact item
  | item :: next :: rest => compact item ++ ',' :: compactItems (next :: rest)

/-- The fields of an object with commas between them. -/
def compactFields : List (String × Value) → List Char
  | [] => []
  | [(key, value)] => quoted key ++ ':' :: compact value
  | (key, value) :: next :: rest =>
    quoted key ++ ':' :: (compact value ++ ',' :: compactFields (next :: rest))

end

/-- A new line at the given level. -/
def lineBreak (level : Nat) : List Char :=
  '\n' :: List.replicate (2 * level) ' '

mutual

/-- The indented spelling inside the given level. -/
def indented (level : Nat) : Value → List Char
  | .array [] => ['[', ']']
  | .array (item :: items) =>
    '[' :: (indentedItems (level + 1) (item :: items) ++ lineBreak level ++ [']'])
  | .object [] => ['\x7b', '\x7d']
  | .object (field :: fields) =>
    '\x7b' :: (indentedFields (level + 1) (field :: fields) ++ lineBreak level ++ ['\x7d'])
  | .null => scalar .null
  | .bool value => scalar (.bool value)
  | .integer value => scalar (.integer value)
  | .double value => scalar (.double value)
  | .text value => scalar (.text value)

/-- The elements of an array, each on a line of its own. -/
def indentedItems (level : Nat) : List Value → List Char
  | [] => []
  | [item] => lineBreak level ++ indented level item
  | item :: next :: rest =>
    lineBreak level ++ (indented level item ++ ',' :: indentedItems level (next :: rest))

/-- The fields of an object, each on a line of its own. -/
def indentedFields (level : Nat) : List (String × Value) → List Char
  | [] => []
  | [(key, value)] => lineBreak level ++ (quoted key ++ ':' :: ' ' :: indented level value)
  | (key, value) :: next :: rest =>
    lineBreak level ++ (quoted key ++ ':' :: ' ' :: (indented level value ++
      ',' :: indentedFields level (next :: rest)))

end

def Value.render (pretty : Bool) (value : Value) : String :=
  String.ofList (if pretty then indented 0 value else compact value)

end Json
end Switchboard
