import Switchboard.Yaml.Scalar

/-!
# YAML tokens

A text is cut into tokens: the indicators, the scalars, and marks where indentation opens and closes
a block.  That something is a key shows only at the colon after it; the places where a key may have
started are kept, one for each level of flow collections, and the marks of the key are put there when
the colon comes.
-/

namespace Switchboard
namespace Yaml

/-- A token. -/
inductive Token where
  | directive
  | documentStart
  | documentEnd
  | blockSequence
  | blockMapping
  | blockEnd
  | flowSequence
  | flowSequenceEnd
  | flowMapping
  | flowMappingEnd
  | blockEntry
  | flowEntry
  | key
  | value
  | alias (name : String)
  | anchor (name : String)
  | tag (tag : Tag)
  | scalar (plain : Bool) (text : String)
deriving DecidableEq, Repr

/-- A place where a key on one line may have started. -/
structure KeyStart where
  possible : Bool
  /-- Whether nothing but a key may stand there. -/
  required : Bool
  /-- The number of tokens before it. -/
  position : Nat
  index : Nat
  line : Nat
  column : Nat

/-- No place. -/
def KeyStart.none : KeyStart := ⟨false, false, 0, 0, 0, 0⟩

/-- How far a text has been cut into tokens. -/
structure Progress where
  cursor : Cursor
  tokens : Array Token
  /-- The column of the innermost block, or minus one. -/
  indent : Int
  /-- The columns of the blocks around it, innermost first. -/
  outer : List Int
  keyAllowed : Bool
  /-- The possible key on the current flow level. -/
  keyStart : KeyStart
  /-- The possible keys on the levels around it, innermost first. -/
  outerKeys : List KeyStart
  /-- Where a value may follow without a blank. -/
  adjacentAt : Nat

namespace Progress

def start (text : List Char) : Progress where
  cursor := .start text
  tokens := #[]
  indent := -1
  outer := []
  keyAllowed := true
  keyStart := .none
  outerKeys := []
  adjacentAt := 0

/-- Whether the cursor is inside a flow collection. -/
def inFlow (p : Progress) : Bool := !p.outerKeys.isEmpty

def push (token : Token) (p : Progress) : Progress :=
  { p with tokens := p.tokens.push token }

/-- Whether a key may start from here on. -/
def allowKey (allowed : Bool) (p : Progress) : Progress :=
  { p with keyAllowed := allowed }

/-- The cursor moved on by a number of characters. -/
def skip (count : Nat) (p : Progress) : Progress :=
  { p with cursor := p.cursor.skip count }

/-- The progress after blanks, line breaks and comments. -/
def skipGaps : Nat → Progress → Progress
  | 0, p => p
  | fuel + 1, p =>
    let c := p.cursor.here
    if c == ' ' || (c == '\t' && (p.inFlow || !p.keyAllowed)) then skipGaps fuel (p.skip 1)
    else if isBreak c then
      let p := { p with cursor := p.cursor.nextLine }
      skipGaps fuel (if p.inFlow then p else p.allowKey true)
    else if c == '#' then
      skipGaps fuel { p with cursor := p.cursor.skipWhile (!isBreakOrEnd ·) }
    else p

/-- The greatest length of a key on one line. -/
def keyLimit : Nat := 1024

/-- A possible key after the cursor moved on: it may not leave its line nor be too long. -/
def refreshKey? (cursor : Cursor) (key : KeyStart) : Option KeyStart :=
  if key.possible && (key.line < cursor.line || key.index + keyLimit < cursor.index) then
    if key.required then none else some { key with possible := false }
  else some key

/-- The progress with every possible key looked at again. -/
def refreshKeys? (p : Progress) : Option Progress :=
  match refreshKey? p.cursor p.keyStart, p.outerKeys.mapM (refreshKey? p.cursor) with
  | some key, some outer => some { p with keyStart := key, outerKeys := outer }
  | _, _ => none

/-- The blocks closed whose column exceeds the given one. -/
def closeBlocks (column : Int) : List Int → Progress → Progress
  | [], p => p
  | around :: outer, p =>
    if p.indent > column then
      closeBlocks column outer { p.push .blockEnd with indent := around, outer := outer }
    else p

/-- The blocks closed for a token at the given column. -/
def unroll (column : Int) (p : Progress) : Progress :=
  if p.inFlow then p else closeBlocks column p.outer p

/-- A block opened by a token at the given column, its mark put at `position`. -/
def roll (column position : Nat) (mark : Token) (p : Progress) : Progress :=
  if p.inFlow || p.indent ≥ column then p
  else
    { p with
      tokens := p.tokens.insertIdxIfInBounds position mark
      indent := column
      outer := p.indent :: p.outer }

/-- A block opened at the cursor. -/
def rollHere (mark : Token) (p : Progress) : Progress :=
  p.roll p.cursor.column p.tokens.size mark

/-- The possible key given up. -/
def dropKey? (p : Progress) : Option Progress :=
  if p.keyStart.possible && p.keyStart.required then none
  else some { p with keyStart := { p.keyStart with possible := false } }

/-- The cursor kept as the start of a possible key. -/
def saveKey? (p : Progress) : Option Progress :=
  if p.keyAllowed then
    p.dropKey?.map fun p =>
      { p with keyStart := ⟨true, p.inFlow && p.indent == p.cursor.column, p.tokens.size,
          p.cursor.index, p.cursor.line, p.cursor.column⟩ }
  else some p

/-- An indicator of the given length after which a key may or may not start. -/
def indicator (token : Token) (length : Nat) (keyAllowed : Bool) (p : Progress) : Progress :=
  ((p.allowKey keyAllowed).skip length).push token

/-- The marks of a document's start or end. -/
def documentMark? (token : Token) (p : Progress) : Option Progress :=
  (p.unroll (-1)).dropKey?.map (indicator token 3 false)

/-- The deepest nesting of flow collections. -/
def flowLimit : Nat := 255

/-- The start of a flow collection. -/
def openFlow? (token : Token) (p : Progress) : Option Progress :=
  p.saveKey?.bind fun p =>
    if p.outerKeys.length ≥ flowLimit then none
    else
      some (indicator token 1 true
        { p with keyStart := .none, outerKeys := p.keyStart :: p.outerKeys })

/-- The end of a flow collection. -/
def closeFlow? (token : Token) (p : Progress) : Option Progress :=
  p.dropKey?.map fun p =>
    indicator token 1 false
      (match p.outerKeys with
      | [] => p
      | key :: outer => { p with keyStart := key, outerKeys := outer })

/-- The dash before an element of a block. -/
def blockEntry? (p : Progress) : Option Progress :=
  if p.inFlow || !p.keyAllowed then none
  else (p.rollHere .blockSequence).dropKey?.map (indicator .blockEntry 1 true)

/-- The question mark before a key. -/
def explicitKey? (p : Progress) : Option Progress :=
  if p.inFlow then p.dropKey?.map (indicator .key 1 false)
  else if p.keyAllowed then
    (p.rollHere .blockMapping).dropKey?.map (indicator .key 1 true)
  else none

/-- The colon before a value. -/
def value? (p : Progress) : Option Progress :=
  if p.keyStart.possible then
    let key := p.keyStart
    let p := { p with tokens := p.tokens.insertIdxIfInBounds key.position .key }
    let p := p.roll key.column key.position .blockMapping
    some (indicator .value 1 false { p with keyStart := { key with possible := false } })
  else if p.inFlow then some (indicator .value 1 false p)
  else if p.keyAllowed then some (indicator .value 1 true (p.rollHere .blockMapping))
  else none

def anchor? (token : String → Token) (p : Progress) : Option Progress :=
  p.saveKey?.bind fun p =>
    let name := p.cursor.next.rest.takeWhile isWordChar
    let p := indicator (token (String.ofList name)) (name.length + 1) false p
    let after := p.cursor.here
    if name.isEmpty || !(isGapOrEnd after || "?:,]\x7d%@\x60".toList.contains after) then none
    else some p

def tag? (p : Progress) : Option Progress :=
  p.saveKey?.bind fun p =>
    (readTag? p.cursor).map fun (tag, cursor) =>
      { (p.allowKey false).push (.tag tag) with cursor := cursor }

def block? (literal : Bool) (p : Progress) : Option Progress :=
  p.saveKey?.bind fun p =>
    (readBlock? literal p.indent p.cursor.next).map fun (text, cursor) =>
      { (p.allowKey true).push (.scalar false (String.ofList text)) with cursor := cursor }

def quoted? (single : Bool) (p : Progress) : Option Progress :=
  p.saveKey?.bind fun p =>
    (readQuoted? single (p.cursor.rest.length + 1) p.cursor.next).map fun (text, cursor) =>
      { (p.allowKey false).push (.scalar false (String.ofList text)) with
        cursor := cursor, adjacentAt := cursor.index }

def plain? (p : Progress) : Option Progress :=
  p.saveKey?.bind fun p =>
    (readPlain? p.inFlow (p.indent + 1) (p.cursor.rest.length + 1) Gap.none p.cursor).map
      fun (text, spansLines, cursor) =>
        { (p.allowKey spansLines).push (.scalar true (String.ofList text)) with cursor := cursor }

/-- The cursor after a number of one to nine digits. -/
def versionPart? (cursor : Cursor) : Option Cursor :=
  let digits := (cursor.rest.takeWhile Char.isDigit).length
  if digits == 0 || digits > 9 then none else some (cursor.skip digits)

/-- The cursor after the values of a directive with the given name. -/
def directiveValue? (name : String) (cursor : Cursor) : Option Cursor :=
  let cursor := cursor.skipWhile isGap
  if name == "YAML" then
    (versionPart? cursor).bind fun cursor =>
      if cursor.here == '.' then versionPart? cursor.next else none
  else if name == "TAG" then
    match readHandle? cursor with
    | some (handle, cursor) =>
      if handle.length ≥ 2 && handle.getLast? != some '!' then none
      else
        match readUri? [] (cursor.skipWhile isGap) with
        | some (_, cursor) => if isGapOrEnd cursor.here then some cursor else none
        | none => none
    | none => none
  else some (cursor.skipWhile (!isBreakOrEnd ·))

def directive? (p : Progress) : Option Progress :=
  (p.unroll (-1)).dropKey?.bind fun p =>
    let name := p.cursor.next.rest.takeWhile isWordChar
    let cursor := p.cursor.skip (name.length + 1)
    if name.isEmpty || !isGapOrEnd cursor.here then none
    else
      (directiveValue? (String.ofList name) cursor).bind fun cursor =>
        let cursor := cursor.skipWhile isGap
        let cursor := if cursor.here == '#' then cursor.skipWhile (!isBreakOrEnd ·) else cursor
        if isBreakOrEnd cursor.here then
          some { (p.allowKey false).push .directive with cursor := cursor.nextLine }
        else none

/-- The token at the cursor, which stands at its first character. -/
def token? (p : Progress) : Option Progress :=
  let c := p.cursor.here
  let after := p.cursor.peek 1
  if p.cursor.column == 0 && c == '%' then p.directive?
  else if p.cursor.atMarks '-' then p.documentMark? .documentStart
  else if p.cursor.atMarks '.' then p.documentMark? .documentEnd
  else if c == '[' then p.openFlow? .flowSequence
  else if c == '\x7b' then p.openFlow? .flowMapping
  else if c == ']' then p.closeFlow? .flowSequenceEnd
  else if c == '\x7d' then p.closeFlow? .flowMappingEnd
  else if c == ',' then p.dropKey?.map (indicator .flowEntry 1 true)
  else if c == '-' && isGapOrEnd after then p.blockEntry?
  else if c == '?' && isGapOrEnd after then p.explicitKey?
  else if c == ':' && (isGapOrEnd after ||
      (p.inFlow && (isFlowIndicator after || p.cursor.index == p.adjacentAt))) then p.value?
  else if c == '*' then p.anchor? .alias
  else if c == '&' then p.anchor? .anchor
  else if c == '!' then p.tag?
  else if c == '|' && !p.inFlow then p.block? true
  else if c == '>' && !p.inFlow then p.block? false
  else if c == '\'' then p.quoted? true
  else if c == '"' then p.quoted? false
  else if c == '%' || c == '@' || c == '\x60' then none
  else p.plain?

/-- All tokens of what is left. -/
def finish? : Nat → Progress → Option (List Token)
  | 0, _ => none
  | fuel + 1, p =>
    (skipGaps (p.cursor.rest.length + 1) p).refreshKeys?.bind fun p =>
      let p := p.unroll p.cursor.column
      if isEnd p.cursor.here then (p.unroll (-1)).dropKey?.map fun p => p.tokens.toList
      else p.token?.bind (finish? fuel)

end Progress

/-- The tokens of a text, if it can be cut into tokens. -/
def tokens? (text : List Char) : Option (List Token) :=
  Progress.finish? (2 * text.length + 2) (.start text)

end Yaml
end Switchboard
