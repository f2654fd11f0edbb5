import Switchboard.Text.Blank

/-!
# Files of environment variables

A file sets variables line by line.  Values may be quoted, and then span lines, and other variables
may be substituted in them.  The first line that cannot be read ends the file; what stands before it
counts.
-/

namespace Switchboard
namespace VariableFile

/-- Where a scan for the end of a line stands. -/
inductive Scan where
  | plain
  | afterBlank
  | escape
  | single
  | singleEscape
  | double
  | doubleEscape
deriving DecidableEq, Repr

/-- The state after one character; nothing if a comment starts with it. -/
def Scan.next? (scan : Scan) (c : Char) : Option Scan :=
  let opened : Scan :=
    if c == '\\' then .escape else if c == '"' then .double else if c == '\'' then .single
    else .plain
  match scan with
  | .plain =>
    if Text.isBlank c && c != '\n' && c != '\r' then some .afterBlank else some opened
  | .afterBlank => if c == '#' then none else some opened
  | .escape => some .plain
  | .single => some (if c == '\\' then .singleEscape else if c == '\'' then .plain else .single)
  | .singleEscape => some .single
  | .double => some (if c == '\\' then .doubleEscape else if c == '"' then .plain else .double)
  | .doubleEscape => some .double

/-- The characters of a physical line before a comment, and the state after them; nothing as the
state if a comment ends them. -/
def scanLine : Scan → List Char → List Char × Option Scan
  | scan, [] => ([], some scan)
  | scan, c :: rest =>
    match scan.next? c with
    | none => ([], none)
    | some scan =>
      let (text, ending) := scanLine scan rest
      (c :: text, ending)

/-- The physical lines of a text with their line ends. -/
def physicalLines : List Char → List (List Char)
  | [] => []
  | c :: rest =>
    if c == '\n' then [c] :: physicalLines rest
    else
      match physicalLines rest with
      | [] => [[c]]
      | line :: lines => (c :: line) :: lines

/-- A line without the line end behind it. -/
def withoutEnd (line : List Char) : List Char :=
  match line.reverse with
  | '\n' :: '\r' :: rest => rest.reverse
  | '\n' :: rest => rest.reverse
  | _ => line

/-- The lines in which values are complete; `started` is what stands before the first physical line,
where the scan has come to.  A last line that is never complete is left out. -/
def logicalLines (scan : Scan) (started : List Char) : List (List Char) → List (List Char)
  | [] => []
  | line :: rest =>
    if ((started ++ line).dropWhile Text.isBlank).head? == some '#' then
      [] :: logicalLines .plain [] rest
    else
      match scanLine scan line with
      | (text, none) => (started ++ text) :: logicalLines .plain [] rest
      | (text, some .plain) => withoutEnd (started ++ text) :: logicalLines .plain [] rest
      | (text, some scan) => logicalLines scan (started ++ text) rest

/-- The values that variables have where they are substituted. -/
abbrev Values := List (String × String)

/-- The value of a variable, empty if it has none. -/
def valueOf (values : Values) (name : List Char) : List Char :=
  (((values.find? (·.1 == String.ofList name)).map (·.2)).getD "").toList

/-- Where a substitution stands. -/
inductive Substitution where
  | none
  /-- After a dollar sign. -/
  | name (name : List Char)
  /-- After a dollar sign and a brace. -/
  | braced (name : List Char)
deriving DecidableEq, Repr

/-- Where a value is being read. -/
structure ValueState where
  single : Bool := false
  double : Bool := false
  escaped : Bool := false
  ended : Bool := false
  substitution : Substitution := .none

/-- A character of the name of a substituted variable outside braces: a letter or digit, or a
character beyond the first 128 that is no blank. -/
def isNameChar (c : Char) : Bool :=
  c.isAlphanum || (c.toNat ≥ 0x80 && !Text.isBlank c)

/-- The value that a text spells. -/
def readValue? (values : Values) : ValueState → List Char → Option (List Char)
  | state, [] =>
    match state.substitution with
    | .braced _ => none
    | .none => if state.single || state.double then none else some []
    | .name name => if state.single || state.double then none else some (valueOf values name)
  | state, c :: rest =>
    let more (text : List Char) (state : ValueState) : Option (List Char) :=
      (readValue? values state rest).map (text ++ ·)
    if state.ended then
      if c == ' ' || c == '\t' then readValue? values state rest
      else if c == '#' then some []
      else none
    else if state.escaped then
      let state := { state with escaped := false }
      if ['\\', '\'', '"', '$', ' '].contains c then more [c] state
      else if c == 'n' then more ['\n'] state
      else none
    else if state.single then
      if c == '\'' then readValue? values { state with single := false } rest
      else more [c] state
    else
      match state.substitution with
      | .name name =>
        if isNameChar c then
          readValue? values { state with substitution := .name (name ++ [c]) } rest
        else if c == '\x7b' && name.isEmpty then
          readValue? values { state with substitution := .braced [] } rest
        else if c == '$' then
          more (valueOf values name) { state with substitution := .name [] }
        else more (valueOf values name ++ [c]) { state with substitution := .none }
      | .braced name =>
        if c == '\x7d' then more (valueOf values name) { state with substitution := .none }
        else readValue? values { state with substitution := .braced (name ++ [c]) } rest
      | .none =>
        if c == '$' then readValue? values { state with substitution := .name [] } rest
        else if c == '\\' then readValue? values { state with escaped := true } rest
        else if state.double then
          if c == '"' then readValue? values { state with double := false } rest
          else more [c] state
        else if c == '\'' then readValue? values { state with single := true } rest
        else if c == '"' then readValue? values { state with double := true } rest
        else if c == ' ' || c == '\t' then readValue? values { state with ended := true } rest
        else more [c] state

/-- The name at the start of a line, and what is left. -/
def readName? (line : List Char) : Option (String × List Char) :=
  let isChar (c : Char) : Bool := c.isAlphanum || c == '_' || c == '.'
  match line with
  | c :: _ =>
    if c.isAlpha || c == '_' then
      some (String.ofList (line.takeWhile isChar), line.dropWhile isChar)
    else none
  | [] => none

/-- What is left after the blanks at the start of a line. -/
def skipBlanks (line : List Char) : List Char := line.dropWhile Text.isBlank

/-- The name that a line sets and the text of the value after the equals sign; the word `export` may
stand before the name. -/
def readAssignment? (line : List Char) : Option (String × List Char) :=
  let assigned? (name : String) (rest : List Char) : Option (String × List Char) :=
    match skipBlanks rest with
    | '=' :: rest => some (name, skipBlanks rest)
    | _ => none
  match readName? line with
  | none => none
  | some (name, rest) =>
    match assigned? name rest with
    | some assignment => some assignment
    | none =>
      if name == "export" then
        (readName? (skipBlanks rest)).bind fun (name, rest) => assigned? name rest
      else none

/-- The variable that a line sets, if it sets one; nothing if the line cannot be read. -/
def readLine? (values : Values) (line : List Char) : Option (Option (String × String)) :=
  let line := skipBlanks (Text.dropEndWhile Text.isBlank line)
  if line.isEmpty || line.head? == some '#' then some none
  else
    match readAssignment? line with
    | none => none
    | some (name, value) =>
      if value.isEmpty || value.head? == some '#' then some (some (name, ""))
      else (readValue? values {} value).map fun value => some (name, String.ofList value)

/-- Variables and the values known from lines before, after further lines. -/
def setLines : List (String × String) → Values → List (List Char) → List (String × String)
  | vars, _, [] => vars
  | vars, known, line :: rest =>
    match readLine? (vars ++ known) line with
    | none => vars
    | some none => setLines vars known rest
    | some (some (name, value)) =>
      let isSet := vars.any (·.1 == name)
      setLines (if isSet then vars else vars ++ [(name, value)])
        ((name, value) :: known) rest

/-- The variables together with those that a text sets and that were not set. -/
def load (vars : List (String × String)) (text : String) : List (String × String) :=
  setLines vars [] (logicalLines .plain [] (physicalLines text.toList))

end VariableFile
end Switchboard
