/-!
# Positions in a YAML text

A cursor is what is left of a text with the line and column of its first character.  Past the end a
zero character is seen.
-/

namespace Switchboard
namespace Yaml

/-- What is left of a text, and where it starts. -/
structure Cursor where
  rest : List Char
  index : Nat
  line : Nat
  column : Nat

namespace Cursor

/-- The cursor at the start of a text. -/
def start (text : List Char) : Cursor := ⟨text, 0, 0, 0⟩

/-- The character a number of places ahead. -/
def peek (cursor : Cursor) (ahead : Nat) : Char :=
  (cursor.rest[ahead]?).getD '\x00'

def here (cursor : Cursor) : Char := cursor.peek 0

def next (cursor : Cursor) : Cursor :=
  match cursor.rest with
  | [] => cursor
  | '\n' :: rest => ⟨rest, cursor.index + 1, cursor.line + 1, 0⟩
  | _ :: rest => ⟨rest, cursor.index + 1, cursor.line, cursor.column + 1⟩

/-- The cursor after a number of characters. -/
def skip : Nat → Cursor → Cursor
  | 0, cursor => cursor
  | count + 1, cursor => skip count cursor.next

end Cursor

/-- The end of the text. -/
def isEnd (c : Char) : Bool := c == '\x00'

def isBreak (c : Char) : Bool := c == '\n' || c == '\r'

/-- A blank within a line. -/
def isGap (c : Char) : Bool := c == ' ' || c == '\t'

def isGapOrEnd (c : Char) : Bool := isGap c || isBreak c || isEnd c

def isBreakOrEnd (c : Char) : Bool := isBreak c || isEnd c

def isFlowIndicator (c : Char) : Bool :=
  c == ',' || c == '[' || c == ']' || c == '\x7b' || c == '\x7d'

/-- A character of an anchor. -/
def isWordChar (c : Char) : Bool := c.isAlphanum || c == '_' || c == '-'

namespace Cursor

/-- The cursor after one line break, if it stands at one. -/
def nextLine (cursor : Cursor) : Cursor :=
  if cursor.here == '\r' && cursor.peek 1 == '\n' then cursor.skip 2
  else if isBreak cursor.here then cursor.next
  else cursor

/-- The cursor after the characters of a kind that does not hold of the end. -/
def skipWhile (p : Char → Bool) (cursor : Cursor) : Cursor :=
  cursor.skip (cursor.rest.takeWhile p).length

/-- Whether the three marks of a document's start or end stand at the cursor. -/
def atMarks (mark : Char) (cursor : Cursor) : Bool :=
  cursor.column == 0 && cursor.here == mark && cursor.peek 1 == mark && cursor.peek 2 == mark &&
    isGapOrEnd (cursor.peek 3)

/-- Whether a document starts or ends at the cursor. -/
def atDocumentMark (cursor : Cursor) : Bool :=
  cursor.atMarks '-' || cursor.atMarks '.'

end Cursor
end Yaml
end Switchboard
