import Switchboard.Decimal.Reading
import Switchboard.Yaml.Cursor

/-!
# YAML tags

A tag has a handle and a suffix.  The suffix may hold octets written with a percent sign; the octets
of one character are put one after another into its number.
-/

namespace Switchboard
namespace Yaml

/-- A tag: the handle that names its family, and its name there. -/
structure Tag where
  handle : String
  suffix : String
deriving DecidableEq, Repr

/-- The characters of a tag's suffix besides the percent sign. -/
def isTagChar (c : Char) : Bool :=
  isWordChar c || ";/?:@&=+$,.!~*'()[]".toList.contains c

/-- The octet that is written with a percent sign at the cursor. -/
def readOctet? (cursor : Cursor) : Option (Nat × Cursor) :=
  if cursor.here == '%' then
    (Decimal.readBase? 16 255 [cursor.peek 1, cursor.peek 2]).map fun octet =>
      (octet, cursor.skip 3)
  else none

/-- The number of octets of a character that starts with the given one. -/
def octetCount? (first : Nat) : Option Nat :=
  if first < 0x80 then some 1
  else if first < 0xC0 then none
  else if first < 0xE0 then some 2
  else if first < 0xF0 then some 3
  else if first < 0xF8 then some 4
  else none

/-- The number made of further octets after those that gave `code`. -/
def readFurtherOctets? : Nat → Nat → Cursor → Option (Nat × Cursor)
  | 0, code, cursor => some (code, cursor)
  | count + 1, code, cursor =>
    match readOctet? cursor with
    | some (octet, cursor) =>
      if 0x80 ≤ octet && octet < 0xC0 then
        readFurtherOctets? count (code * 256 + octet) cursor
      else none
    | none => none

/-- The character of a code point, if it is one. -/
def scalarValue? (n : Nat) : Option Char :=
  if n < 0xD800 || (0xE000 ≤ n && n < 0x110000) then some (Char.ofNat n) else none

/-- The character written with percent signs at the cursor. -/
def readOctetChar? (cursor : Cursor) : Option (Char × Cursor) :=
  match readOctet? cursor with
  | some (first, cursor) =>
    match octetCount? first with
    | some count =>
      match readFurtherOctets? (count - 1) first cursor with
      | some (code, cursor) => (scalarValue? code).map fun c => (c, cursor)
      | none => none
    | none => none
  | none => none

/-- The suffix characters from the cursor on. -/
def readSuffix? : Nat → Cursor → Option (List Char × Cursor)
  | 0, cursor => some ([], cursor)
  | fuel + 1, cursor =>
    if cursor.here == '%' then
      match readOctetChar? cursor with
      | some (c, cursor) => (readSuffix? fuel cursor).map fun (text, rest) => (c :: text, rest)
      | none => none
    else if isTagChar cursor.here then
      (readSuffix? fuel cursor.next).map fun (text, rest) => (cursor.here :: text, rest)
    else some ([], cursor)

/-- The suffix of a tag after `head`, the part of it that was read already; it may not be empty. -/
def readUri? (head : List Char) (cursor : Cursor) : Option (List Char × Cursor) :=
  match readSuffix? (cursor.rest.length + 1) cursor with
  | some (text, rest) =>
    if head.isEmpty && text.isEmpty then none else some (head.drop 1 ++ text, rest)
  | none => none

/-- A handle at the cursor: an exclamation mark, a word, and possibly another mark. -/
def readHandle? (cursor : Cursor) : Option (List Char × Cursor) :=
  if cursor.here == '!' then
    let word := cursor.next.rest.takeWhile isWordChar
    let cursor := cursor.skip (word.length + 1)
    if cursor.here == '!' then some ('!' :: word ++ ['!'], cursor.next)
    else some ('!' :: word, cursor)
  else none

/-- The tag at the cursor, which ends before a blank or the end. -/
def readTag? (cursor : Cursor) : Option (Tag × Cursor) :=
  let ended (tag : Tag) (cursor : Cursor) : Option (Tag × Cursor) :=
    if isGapOrEnd cursor.here then some (tag, cursor) else none
  if cursor.peek 1 == '<' then
    match readUri? [] (cursor.skip 2) with
    | some (suffix, cursor) =>
      if cursor.here == '>' then ended ⟨"", String.ofList suffix⟩ cursor.next else none
    | none => none
  else
    match readHandle? cursor with
    | none => none
    | some (handle, cursor) =>
      if handle.length ≥ 2 && handle.getLast? == some '!' then
        match readUri? [] cursor with
        | some (suffix, cursor) => ended ⟨String.ofList handle, String.ofList suffix⟩ cursor
        | none => none
      else
        match readUri? handle cursor with
        | some ([], cursor) => ended ⟨"", "!"⟩ cursor
        | some (suffix, cursor) => ended ⟨"!", String.ofList suffix⟩ cursor
        | none => none

end Yaml
end Switchboard
