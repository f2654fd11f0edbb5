import Switchboard.Yaml.Tag

/-!
# YAML scalars

The three ways to write a scalar: plain, in quotes, and as an indented block.  Lines of a plain or
quoted scalar are folded: a single line break is a blank, and of several the first is dropped.
-/

namespace Switchboard
namespace Yaml

/-- White space inside a scalar that is kept only if more of the scalar follows. -/
structure Gap where
  /-- Blanks, where there is no line break. -/
  blanks : List Char
  /-- The number of line breaks. -/
  breaks : Nat
  /-- Whether an escaped line break came first. -/
  escaped : Bool

/-- No white space. -/
def Gap.none : Gap := ⟨[], 0, false⟩

/-- Whether the gap spans lines. -/
def Gap.spansLines (gap : Gap) : Bool := gap.escaped || gap.breaks > 0

/-- What a gap contributes to the scalar. -/
def Gap.folded (gap : Gap) : List Char :=
  if gap.escaped then List.replicate gap.breaks '\n'
  else
    match gap.breaks with
    | 0 => gap.blanks
    | 1 => [' ']
    | breaks + 2 => List.replicate (breaks + 1) '\n'

/-- The gap from the cursor on, after the part of it that was read already; nothing if a tab stands
where `tabFault` forbids one. -/
def readGap? (tabFault : Nat → Bool) : Nat → Gap → Cursor → Option (Gap × Cursor)
  | 0, gap, cursor => some (gap, cursor)
  | fuel + 1, gap, cursor =>
    if isGap cursor.here then
      if gap.spansLines then
        if cursor.here == '\t' && tabFault cursor.column then none
        else readGap? tabFault fuel gap cursor.next
      else readGap? tabFault fuel { gap with blanks := gap.blanks ++ [cursor.here] } cursor.next
    else if isBreak cursor.here then
      readGap? tabFault fuel ⟨[], gap.breaks + 1, gap.escaped⟩ cursor.nextLine
    else some (gap, cursor)

/-- The characters of a plain scalar up to a blank, a line break or an indicator that ends it. -/
def plainWord (inFlow : Bool) : List Char → List Char
  | [] => []
  | c :: rest =>
    let after := rest.head?.getD '\x00'
    if isGapOrEnd c then []
    else if c == ':' && (isGapOrEnd after || (inFlow && isFlowIndicator after)) then []
    else if inFlow && isFlowIndicator c then []
    else c :: plainWord inFlow rest

/-- What is left of a plain scalar after a gap, whether its last gap spans lines, and the cursor
after it; it ends before a line that is not indented to the column `indent`. -/
def readPlain? (inFlow : Bool) (indent : Int) :
    Nat → Gap → Cursor → Option (List Char × Bool × Cursor)
  | 0, gap, cursor => some ([], gap.spansLines, cursor)
  | fuel + 1, gap, cursor =>
    if cursor.atDocumentMark || cursor.here == '#' then some ([], gap.spansLines, cursor)
    else
      let word := plainWord inFlow cursor.rest
      let (text, gap) := if word.isEmpty then ([], gap) else (gap.folded ++ word, Gap.none)
      let cursor := cursor.skip word.length
      if !(isGap cursor.here || isBreak cursor.here) then some (text, gap.spansLines, cursor)
      else
        match readGap? (fun column => decide ((column : Int) < indent)) cursor.rest.length gap
            cursor with
        | none => none
        | some (gap, cursor) =>
          if !inFlow && decide ((cursor.column : Int) < indent) then
            some (text, gap.spansLines, cursor)
          else
            (readPlain? inFlow indent fuel gap cursor).map
              fun (rest, spans, cursor) => (text ++ rest, spans, cursor)

/-- The character that a backslash and one letter stand for in double quotes. -/
def shortEscape? : Char → Option Char
  | '0' => some '\x00'
  | 'a' => some '\x07'
  | 'b' => some '\x08'
  | 't' => some '\t'
  | '\t' => some '\t'
  | 'n' => some '\n'
  | 'v' => some '\x0b'
  | 'f' => some '\x0c'
  | 'r' => some '\r'
  | 'e' => some '\x1b'
  | ' ' => some ' '
  | '"' => some '"'
  | '\'' => some '\''
  | '\\' => some '\\'
  | 'N' => some (Char.ofNat 0x85)
  | '_' => some (Char.ofNat 0xA0)
  | 'L' => some (Char.ofNat 0x2028)
  | 'P' => some (Char.ofNat 0x2029)
  | _ => none

/-- The number of hexadecimal digits after an escape by number. -/
def escapeLength? : Char → Option Nat
  | 'x' => some 2
  | 'u' => some 4
  | 'U' => some 8
  | _ => none

/-- How a run of quoted characters ends. -/
inductive RunEnd where
  | quote
  | escapedBreak
  | gap
deriving DecidableEq, Repr

/-- The quoted characters up to the closing quote, an escaped line break or a gap. -/
def readRun? (single : Bool) : Nat → Cursor → Option (List Char × RunEnd × Cursor)
  | 0, _ => none
  | fuel + 1, cursor =>
    let c := cursor.here
    let after := cursor.peek 1
    if isGapOrEnd c then some ([], .gap, cursor)
    else if single && c == '\'' then
      if after == '\'' then
        (readRun? single fuel (cursor.skip 2)).map fun (text, rest) => ('\'' :: text, rest)
      else some ([], .quote, cursor)
    else if !single && c == '"' then some ([], .quote, cursor)
    else if !single && c == '\\' then
      if isBreak after then some ([], .escapedBreak, cursor.next.nextLine)
      else
        match shortEscape? after, escapeLength? after with
        | some c, _ =>
          (readRun? single fuel (cursor.skip 2)).map fun (text, rest) => (c :: text, rest)
        | none, some length =>
          let cursor := cursor.skip 2
          let digits := cursor.rest.take length
          if digits.length < length then none
          else
            match (Decimal.readBase? 16 (Nat.pow 2 32) digits).bind scalarValue? with
            | none => none
            | some c =>
              (readRun? single fuel (cursor.skip length)).map
                fun (text, rest) => (c :: text, rest)
        | none, none => none
    else (readRun? single fuel cursor.next).map fun (text, rest) => (c :: text, rest)

/-- What is left of a quoted scalar up to its closing quote, and the cursor after it. -/
def readQuoted? (single : Bool) : Nat → Cursor → Option (List Char × Cursor)
  | 0, _ => none
  | fuel + 1, cursor =>
    if cursor.atDocumentMark || isEnd cursor.here then none
    else
      match readRun? single (cursor.rest.length + 1) cursor with
      | none => none
      | some (text, .quote, cursor) => some (text, cursor.next)
      | some (text, ending, cursor) =>
        if cursor.here == (if single then '\'' else '"') then some (text, cursor.next)
        else
          match readGap? (fun _ => false) cursor.rest.length
              ⟨[], 0, ending == .escapedBreak⟩ cursor with
          | none => none
          | some (gap, cursor) =>
            (readQuoted? single fuel cursor).map
              fun (rest, cursor) => (text ++ gap.folded ++ rest, cursor)

/-- What becomes of the line breaks at the end of a block. -/
inductive Chomp where
  | strip
  | clip
  | keep
deriving DecidableEq, Repr

/-- The header of a block scalar: its chomping and its explicit indentation, zero if none. -/
def readBlockHeader? (cursor : Cursor) : Option (Chomp × Nat × Cursor) :=
  let chomp? (c : Char) : Option Chomp :=
    if c == '+' then some .keep else if c == '-' then some .strip else none
  let digit? (c : Char) : Option Nat :=
    if c.isDigit then some (c.toNat - '0'.toNat) else none
  match chomp? cursor.here with
  | some chomp =>
    match digit? cursor.next.here with
    | some 0 => none
    | some increment => some (chomp, increment, cursor.skip 2)
    | none => some (chomp, 0, cursor.next)
  | none =>
    match digit? cursor.here with
    | some 0 => none
    | some increment =>
      match chomp? cursor.next.here with
      | some chomp => some (chomp, increment, cursor.skip 2)
      | none => some (.clip, increment, cursor.next)
    | none => some (.clip, 0, cursor)

/-- The empty lines from the cursor on with the widest column reached; nothing if a tab stands where
indentation is wanted.  With `indent` zero the indentation is not known yet. -/
def readEmptyLines? (indent : Nat) : Nat → Nat → Cursor → Option (Nat × Nat × Cursor)
  | 0, widest, cursor => some (0, widest, cursor)
  | fuel + 1, widest, cursor =>
    let blanks := (cursor.rest.takeWhile (· == ' ')).length
    let cursor := cursor.skip (if indent == 0 then blanks else min blanks (indent - cursor.column))
    let widest := max widest cursor.column
    if (indent == 0 || cursor.column < indent) && cursor.here == '\t' then none
    else if isBreak cursor.here then
      (readEmptyLines? indent fuel widest cursor.nextLine).map
        fun (lines, rest) => (lines + 1, rest)
    else some (0, widest, cursor)

/-- The lines of a block scalar with its indentation: the text so far, whether a line break is
pending, the number of empty lines after it, and whether the last line started with a blank. -/
def readBlockLines? (literal : Bool) (indent : Nat) : Nat → Bool → Nat → Bool → Cursor →
    Option (List Char × Bool × Nat × Cursor)
  | 0, pending, empty, _, cursor => some ([], pending, empty, cursor)
  | fuel + 1, pending, empty, lastBlank, cursor =>
    if cursor.column != indent || isEnd cursor.here then some ([], pending, empty, cursor)
    else
      let startsBlank := isGap cursor.here
      let between :=
        if !literal && pending && !lastBlank && !startsBlank then
          if empty == 0 then [' '] else []
        else if pending then ['\n'] else []
      let line := cursor.rest.takeWhile fun c => !isBreakOrEnd c
      let text := between ++ List.replicate empty '\n' ++ line
      let cursor := cursor.skip line.length
      if isEnd cursor.here then some (text, false, 0, cursor)
      else
        match readEmptyLines? indent (cursor.rest.length + 1) 0 cursor.nextLine with
        | none => none
        | some (empty, _, cursor) =>
          (readBlockLines? literal indent fuel true empty startsBlank cursor).map
            fun (rest, ending) => (text ++ rest, ending)

/-- A block scalar after its indicator inside the indentation `parent`, and the cursor after it. -/
def readBlock? (literal : Bool) (parent : Int) (cursor : Cursor) : Option (List Char × Cursor) :=
  match readBlockHeader? cursor with
  | none => none
  | some (chomp, increment, cursor) =>
    let cursor := cursor.skipWhile isGap
    let cursor := if cursor.here == '#' then cursor.skipWhile (!isBreakOrEnd ·) else cursor
    if !isBreakOrEnd cursor.here then none
    else
      let cursor := cursor.nextLine
      let explicit := if increment == 0 then 0 else ((max parent 0) + increment).toNat
      match readEmptyLines? explicit (cursor.rest.length + 1) 0 cursor with
      | none => none
      | some (empty, widest, cursor) =>
        let indent := if explicit == 0 then max (max widest (parent + 1).toNat) 1 else explicit
        match readBlockLines? literal indent (cursor.rest.length + 1) false empty false cursor with
        | none => none
        | some (text, pending, empty, cursor) =>
          let ending := if chomp != .strip && pending then ['\n'] else []
          let kept := if chomp == .keep then List.replicate empty '\n' else []
          some (text ++ ending ++ kept, cursor)

end Yaml
end Switchboard
