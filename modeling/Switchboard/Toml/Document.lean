import Switchboard.Toml.Item
import Switchboard.Toml.Moment

/-!
# TOML documents

A document is read line by line: a header opens a table, any other line puts an item into the table
opened last.  Every reader takes what is left of the text and gives back what is left after it.
-/

namespace Switchboard
namespace Toml

/-- A character of a bare key, of a number and of a word. -/
def isBareChar (c : Char) : Bool := c.isAlphanum || c == '-' || c == '_'

/-- A blank within a line. -/
def isGap (c : Char) : Bool := c == ' ' || c == '\t'

/-- What is left after blanks. -/
def skipGap (text : List Char) : List Char := text.dropWhile isGap

/-- A text in which a line ends with a line feed alone. -/
def foldLineEnds : List Char → List Char
  | [] => []
  | '\r' :: '\n' :: rest => '\n' :: foldLineEnds rest
  | c :: rest => c :: foldLineEnds rest

/-- A character that may stand in a comment. -/
def isCommentChar (c : Char) : Bool := c == '\t' || c.toNat ≥ 0x20

/-- A character that may stand in a string for itself. -/
def isStringChar (c : Char) : Bool := c == '\t' || (c.toNat ≥ 0x20 && c.toNat != 0x7F)

/-- What is left after the end of a line, which a comment may come before. -/
def endLine? (text : List Char) : Option (List Char) :=
  let text :=
    match skipGap text with
    | '#' :: rest => rest.dropWhile isCommentChar
    | rest => rest
  match text with
  | [] => some []
  | '\n' :: rest => some rest
  | _ => none

/-- What is left after blanks, comments and line ends; nothing if a comment ends badly. -/
def skipLines? : Nat → List Char → Option (List Char)
  | 0, text => some text
  | fuel + 1, text =>
    match skipGap text with
    | '\n' :: rest => skipLines? fuel rest
    | '#' :: rest =>
      match rest.dropWhile isCommentChar with
      | [] => some []
      | '\n' :: rest => skipLines? fuel rest
      | _ => none
    | rest => some rest

/-- The character of an escape by number. -/
def readNumbered? (count : Nat) (text : List Char) : Option (Char × List Char) :=
  let digits := text.take count
  if digits.length < count then none
  else
    (Decimal.readBase? 16 (Nat.pow 2 32) digits).bind fun n =>
      if n < 0xD800 || (0xE000 ≤ n && n < 0x110000) then some (Char.ofNat n, text.drop count)
      else none

/-- What is left after a backslash at the end of a line of a string, the blanks after it included. -/
def readContinuation? (text : List Char) : Option (List Char) :=
  let skip (text : List Char) : List Char := text.dropWhile fun c => isGap c || c == '\n'
  match skipGap text with
  | '\n' :: rest => some (skip rest)
  | [] => some []
  | _ => none

/-- What an escape contributes after its backslash. -/
def readEscape? (multiline : Bool) : List Char → Option (List Char × List Char)
  | '"' :: rest => some (['"'], rest)
  | '\\' :: rest => some (['\\'], rest)
  | 'b' :: rest => some (['\x08'], rest)
  | 'f' :: rest => some (['\x0c'], rest)
  | 'n' :: rest => some (['\n'], rest)
  | 'r' :: rest => some (['\r'], rest)
  | 't' :: rest => some (['\t'], rest)
  | 'u' :: rest => (readNumbered? 4 rest).map fun (c, rest) => ([c], rest)
  | 'U' :: rest => (readNumbered? 8 rest).map fun (c, rest) => ([c], rest)
  | c :: rest =>
    if multiline && (isGap c || c == '\n') then
      (readContinuation? (c :: rest)).map fun rest => ([], rest)
    else none
  | [] => none

/-- What is left of a string up to its closing delimiter. -/
def readString? (delimiter : Char) (multiline : Bool) :
    Nat → List Char → Option (List Char × List Char)
  | 0, _ => none
  | _ + 1, [] => none
  | fuel + 1, c :: rest =>
    let more (text : List Char) (rest : List Char) : Option (List Char × List Char) :=
      (readString? delimiter multiline fuel rest).map fun (tail, rest) => (text ++ tail, rest)
    if c == delimiter then
      if !multiline then some ([], rest)
      else if rest.take 2 == [delimiter, delimiter] then
        -- Up to two delimiters before the closing three belong to the text.
        let extra := ((rest.drop 2).take 2).takeWhile (· == delimiter)
        some (extra, rest.drop (2 + extra.length))
      else more [c] rest
    else if c == '\n' then if multiline then more ['\n'] rest else none
    else if c == '\\' && delimiter == '"' then
      match readEscape? multiline rest with
      | some (text, rest) => more text rest
      | none => none
    else if isStringChar c then more [c] rest
    else none

/-- A string from its opening delimiter on, and whether it may span lines. -/
def readQuoted? : List Char → Option (String × Bool × List Char)
  | delimiter :: rest =>
    if delimiter == '"' || delimiter == '\'' then
      let multiline := rest.take 2 == [delimiter, delimiter]
      let inside :=
        if multiline then
          match rest.drop 2 with
          | '\n' :: rest => rest
          | rest => rest
        else rest
      (readString? delimiter multiline (inside.length + 1) inside).map
        fun (text, rest) => (String.ofList text, multiline, rest)
    else none
  | [] => none

/-- One key: a bare word or a string on one line. -/
def readKey? (text : List Char) : Option (String × List Char) :=
  let bare := text.takeWhile isBareChar
  if bare.isEmpty then
    match readQuoted? text with
    | some (key, false, rest) => some (key, rest)
    | _ => none
  else some (String.ofList bare, text.dropWhile isBareChar)

/-- Keys with dots between them, and what is left after the blanks that follow. -/
def readKeys? : Nat → List Char → Option (List String × List Char)
  | 0, _ => none
  | fuel + 1, text =>
    match readKey? text with
    | none => none
    | some (key, rest) =>
      match skipGap rest with
      | '.' :: rest => (readKeys? fuel (skipGap rest)).map fun (keys, rest) => (key :: keys, rest)
      | rest => some ([key], rest)

/-- A digit in the given base. -/
def isDigitOf (base : Nat) (c : Char) : Bool := (Decimal.readBase? base base [c]).isSome

/-- A run of digits without the underscores between them, and what is left.  Zeros in front are
allowed only as said; `first` tells whether nothing was read, `zero` whether the run started with a
zero, and `gap` whether an underscore came last. -/
def readRun? (base : Nat) (zeros : Bool) (first zero gap : Bool) :
    List Char → Option (List Char × List Char)
  | [] => if first || gap then none else some ([], [])
  | c :: rest =>
    if c == '0' && first then
      (readRun? base zeros false true gap rest).map fun (digits, rest) => (c :: digits, rest)
    else if isDigitOf base c then
      if !first && zero && !zeros then none
      else
        (readRun? base zeros false zero false rest).map fun (digits, rest) => (c :: digits, rest)
    else if c == '_' && first then none
    else if c == '_' && !gap then readRun? base zeros false zero true rest
    else if first || gap then none
    else some ([], c :: rest)

/-- A run of decimal digits with an optional minus sign. -/
def readSigned? (zeros : Bool) : List Char → Option (List Char × List Char)
  | '-' :: rest =>
    (readRun? 10 zeros true false false rest).map fun (digits, rest) => ('-' :: digits, rest)
  | text => readRun? 10 zeros true false false text

/-- The whole number that a word is in the given base. -/
def integer? (base : Nat) (word : List Char) : Option Int :=
  let (negative, body) :=
    match base, word with
    | 10, '-' :: body => (true, body)
    | _, body => (false, body)
  match readRun? base (base != 10) true false false body with
  | some (digits, []) =>
    (Decimal.readBase? base (if negative then Nat.pow 2 63 else Decimal.maxInt64) digits).map fun n =>
      if negative then -(n : Int) else n
  | _ => none

/-- The exponent that stands after a mantissa: what is left of its word, and of the text. -/
def readPower? : List Char → List Char → Option (List Char × List Char)
  | [], rest => some ([], rest)
  | mark :: suffix, rest =>
    if mark != 'e' && mark != 'E' then none
    else
      let (run, rest) :=
        match suffix, rest with
        | [], '+' :: rest =>
          (readRun? 10 true true false false (rest.takeWhile isBareChar), rest.dropWhile isBareChar)
        | [], rest =>
          (readRun? 10 true true false false (rest.takeWhile isBareChar), rest.dropWhile isBareChar)
        | suffix, rest => (readSigned? true suffix, rest)
      match run with
      | some (digits, []) => some ('e' :: digits, rest)
      | _ => none

/-- A finite double spelled by a text. -/
def finite? (text : List Char) : Option Item :=
  match Decimal.readDouble? text with
  | some value =>
    match value with
    | .finite .. => some (.double value)
    | _ => none
  | none => none

/-- A double whose word is followed by a fraction, if `fraction` gives its word. -/
def double? (word : List Char) (fraction : Option (List Char)) (rest : List Char) :
    Option (Item × List Char) :=
  match readSigned? false word with
  | none => none
  | some (whole, suffix) =>
    let parts : Option (List Char × List Char) :=
      match fraction with
      | none => some ([], suffix)
      | some fraction =>
        if !suffix.isEmpty then none
        else
          (readRun? 10 true true false false fraction).map
            fun (digits, suffix) => ('.' :: digits, suffix)
    match parts with
    | none => none
    | some (fraction, suffix) =>
      match readPower? suffix rest with
      | none => none
      | some (power, rest) => (finite? (whole ++ fraction ++ power)).map fun item => (item, rest)

def number? (word rest : List Char) : Option (Item × List Char) :=
  let whole (base : Nat) (digits : List Char) : Option (Item × List Char) :=
    (integer? base digits).map fun n => (.integer n, rest)
  match word with
  | '0' :: 'x' :: digits => whole 16 digits
  | '0' :: 'o' :: digits => whole 8 digits
  | '0' :: 'b' :: digits => whole 2 digits
  | word =>
    if word.contains 'e' || word.contains 'E' then double? word none rest
    else
      match rest with
      | '.' :: rest =>
        double? word (some (rest.takeWhile isBareChar)) (rest.dropWhile isBareChar)
      | rest =>
        if word == "inf".toList then some (.double (.infinite false), rest)
        else if word == "-inf".toList then some (.double (.infinite true), rest)
        else if word == "nan".toList || word == "-nan".toList then some (.double .notANumber, rest)
        else whole 10 word

/-- What is left after a mark and a word. -/
def skipMarked? (mark : Char) (text : List Char) : Option (List Char) :=
  match text with
  | c :: rest =>
    if c == mark then
      let word := rest.takeWhile isBareChar
      if word.isEmpty then none else some (rest.dropWhile isBareChar)
    else some text
  | [] => some []

/-- What is left after the minutes and seconds of a time, its fraction and its offset. -/
def skipClock? (text : List Char) : Option (List Char) := do
  let word := text.takeWhile isBareChar
  if word.isEmpty then none
  else
    match text.dropWhile isBareChar with
    | ':' :: rest => do
      let rest ← skipMarked? ':' (':' :: rest)
      let rest ← skipMarked? '.' rest
      let rest ← skipMarked? '+' rest
      skipMarked? ':' rest
    | _ => none

/-- The moment at the start of a text whose first word was read; `clock` tells whether the colon
after an hour was read with it. -/
def moment? (text rest : List Char) (clock : Bool) : Option (Item × List Char) :=
  let rest :=
    match rest with
    | ' ' :: tail =>
      if (tail.head?.map isBareChar).getD false then tail.dropWhile isBareChar else rest
    | rest => rest
  let ended :=
    match clock, rest with
    | true, rest => skipClock? rest
    | false, ':' :: rest => skipClock? rest
    | false, rest => some rest
  match ended with
  | none => none
  | some ended =>
    (readMoment? (text.take (text.length - ended.length))).map fun moment =>
      (.text moment.render, ended)

/-- Whether a word starts a date. -/
def startsDate (word : List Char) : Bool :=
  let hasPower := (word.zip (word.drop 1)).any fun (c, d) => (c == 'e' || c == 'E') && d == '-'
  word.contains 'T' || word.contains 't' || ((word.drop 1).contains '-' && !hasPower)

/-- The number, moment or truth value at the start of a text. -/
def readWord? (text : List Char) : Option (Item × List Char) :=
  let word := text.takeWhile isBareChar
  let rest := text.dropWhile isBareChar
  if word == "true".toList then some (.boolean true, rest)
  else if word == "false".toList then some (.boolean false, rest)
  else
    match word with
    | [] =>
      match text with
      | '+' :: text =>
        let word := text.takeWhile isBareChar
        if word.isEmpty then none else number? word (text.dropWhile isBareChar)
      | _ => none
    | first :: _ =>
      if first == '-' || first.isDigit || word == "inf".toList || word == "nan".toList then
        if startsDate word then moment? text rest false
        else
          match rest with
          | ':' :: rest => moment? text rest true
          | rest => number? word rest
      else none

mutual

/-- A value. -/
def readValue? : Nat → List Char → Option (Item × List Char)
  | 0, _ => none
  | fuel + 1, text =>
    match text with
    | '[' :: rest =>
      (readItems? fuel rest).map fun (items, rest) => (.list items, rest)
    | '\x7b' :: rest =>
      match skipGap rest with
      | '\x7d' :: rest => some (.table .inline [], rest)
      | rest =>
        (readInline? fuel [] rest).map fun (entries, rest) => (.table .inline entries, rest)
    | text =>
      match readQuoted? text with
      | some (text, _, rest) => some (.text text, rest)
      | none => readWord? text

/-- The elements of a list up to its closing bracket. -/
def readItems? : Nat → List Char → Option (List Item × List Char)
  | 0, _ => none
  | fuel + 1, text =>
    match skipLines? (text.length + 1) text with
    | none => none
    | some (']' :: rest) => some ([], rest)
    | some text =>
      match readValue? fuel text with
      | none => none
      | some (item, rest) =>
        match skipLines? (rest.length + 1) rest with
        | some (',' :: rest) =>
          (readItems? fuel rest).map fun (items, rest) => (item :: items, rest)
        | some (']' :: rest) => some ([item], rest)
        | _ => none

/-- The entries of a table in braces after those read so far. -/
def readInline? : Nat → Entries → List Char → Option (Entries × List Char)
  | 0, _, _ => none
  | fuel + 1, entries, text =>
    match readKeys? (text.length + 1) text with
    | some (keys, '=' :: rest) =>
      match readValue? fuel (skipGap rest) with
      | none => none
      | some (item, rest) =>
        match put? item keys entries with
        | none => none
        | some entries =>
          match skipGap rest with
          | '\x7d' :: rest => some (entries, rest)
          | ',' :: rest => readInline? fuel entries (skipGap rest)
          | _ => none
    | _ => none

end

/-- A header after its opening bracket: whether it belongs to a list of tables, and its keys. -/
def readHeader? (text : List Char) : Option (Bool × List String × List Char) :=
  let (isList, text) :=
    match text with
    | '[' :: rest => (true, rest)
    | rest => (false, rest)
  match readKeys? (text.length + 1) (skipGap text) with
  | some (keys, rest) =>
    match isList, rest with
    | true, ']' :: ']' :: rest | false, ']' :: rest =>
      (endLine? rest).map fun rest => (isList, keys, rest)
    | _, _ => none
  | none => none

/-- The entries of a document after those of the lines so far, `header` being the table opened
last. -/
def readLines? : Nat → List String → Entries → List Char → Option Entries
  | 0, _, _, _ => none
  | fuel + 1, header, entries, text =>
    match skipLines? (text.length + 1) text with
    | none => none
    | some [] => some entries
    | some ('[' :: rest) =>
      match readHeader? rest with
      | none => none
      | some (isList, keys, rest) =>
        (open? isList keys entries).bind fun entries => readLines? fuel keys entries rest
    | some text =>
      match readKeys? (text.length + 1) text with
      | some (keys, '=' :: rest) =>
        match readValue? (rest.length + 1) (skipGap rest) with
        | none => none
        | some (item, rest) =>
          match endLine? rest, within? (put? item keys) header entries with
          | some rest, some entries => readLines? fuel header entries rest
          | _, _ => none
      | _ => none

/-- The entries of the document that a text holds, if the text can be read. -/
def document? (text : String) : Option Entries :=
  let text :=
    match text.toList with
    | c :: rest => if c.toNat == 0xFEFF then rest else c :: rest
    | [] => []
  readLines? (text.length + 1) [] [] (foldLineEnds text)

end Toml
end Switchboard
