import Switchboard.Json.Value
import Switchboard.Decimal.Reading

/-!
# Reading JSON

A reader takes one value from the front of a text and returns it with what is left.  Strings may
hold no control characters and no half of a surrogate pair.  A number without fraction and exponent
that fits 64 binary digits stays whole; any other is scaled in double precision from as many of its
leading digits as fit, and refused where that overflows.  Arrays and objects may nest 127 deep.
-/

namespace Switchboard
namespace Json

/-- The white space of the format. -/
def isSpace (c : Char) : Bool :=
  c == ' ' || c == '\n' || c == '\t' || c == '\r'

/-- The text without white space in front. -/
def skipSpace (cs : List Char) : List Char :=
  cs.dropWhile isSpace

/-- The value of a hexadecimal digit. -/
def hexValue? (c : Char) : Option Nat :=
  if c.isDigit then some (c.toNat - '0'.toNat)
  else if 'a' ≤ c && c ≤ 'f' then some (c.toNat - 'a'.toNat + 10)
  else if 'A' ≤ c && c ≤ 'F' then some (c.toNat - 'A'.toNat + 10)
  else none

/-- The value of four hexadecimal digits. -/
def hexQuad? (a b c d : Char) : Option Nat := do
  let a ← hexValue? a
  let b ← hexValue? b
  let c ← hexValue? c
  let d ← hexValue? d
  return ((a * 16 + b) * 16 + c) * 16 + d

/-- The character that a backslash and one letter stand for. -/
def shortEscape? : Char → Option Char
  | '"' => some '"'
  | '\\' => some '\\'
  | '/' => some '/'
  | 'b' => some '\x08'
  | 'f' => some '\x0c'
  | 'n' => some '\n'
  | 'r' => some '\r'
  | 't' => some '\t'
  | _ => none

/-- The rest of a quoted text up to its closing quote, and what is left. -/
def readQuoted : List Char → Option (List Char × List Char)
  | [] => none
  | '"' :: rest => some ([], rest)
  | '\\' :: 'u' :: a :: b :: c :: d :: rest =>
    match hexQuad? a b c d with
    | none => none
    | some high =>
      if 0xD800 ≤ high && high < 0xDC00 then
        match rest with
        | '\\' :: 'u' :: e :: f :: g :: h :: rest =>
          match hexQuad? e f g h with
          | none => none
          | some low =>
            if 0xDC00 ≤ low && low < 0xE000 then
              (readQuoted rest).map fun (text, rest) =>
                (Char.ofNat (0x10000 + (high - 0xD800) * 0x400 + (low - 0xDC00)) :: text, rest)
            else none
        | _ => none
      else if 0xDC00 ≤ high && high < 0xE000 then none
      else (readQuoted rest).map fun (text, rest) => (Char.ofNat high :: text, rest)
  | '\\' :: c :: rest =>
    match shortEscape? c with
    | none => none
    | some c => (readQuoted rest).map fun (text, rest) => (c :: text, rest)
  | c :: rest =>
    if c.toNat < 32 || c == '\\' then none
    else (readQuoted rest).map fun (text, rest) => (c :: text, rest)

/-- The number of as many leading digits as fit 64 binary digits, and how many do not. -/
def significand : Nat → List Char → Nat × Nat
  | value, [] => (value, 0)
  | value, c :: rest =>
    let next := value * 10 + Decimal.digitValue c
    if next > Decimal.maxUInt64 then (value, rest.length + 1) else significand next rest

/-- A double times a power of ten in double precision, with powers beyond 308 taken in steps;
nothing if it overflows. -/
def scale? : Nat → Decimal.Binary64 → Int → Option Decimal.Binary64
  | 0, _, _ => some (.zero false)
  | steps + 1, value, exponent =>
    let power := Decimal.Binary64.ofDecimal false 1 exponent.natAbs
    if exponent.natAbs ≤ 308 then
      if exponent ≥ 0 then
        match value.mul power with
        | .infinite _ => none
        | product => some product
      else some (value.div power)
    else if value.isZero then some value
    else if exponent ≥ 0 then none
    else scale? steps (value.div (.ofDecimal false 1 308)) (exponent + 308)

/-- The double of a sign, leading digits and a power of ten. -/
def double? (negative : Bool) (digits : Nat) (exponent : Int) : Option Value :=
  (scale? 5 (.ofNat digits) exponent).map fun value =>
    .double (if negative then value.negate else value)

/-- The exponent after its mark, if there is one, with what is left. -/
def readPower : List Char → Option (Option Int × List Char)
  | [] => some (none, [])
  | c :: rest =>
    if c == 'e' || c == 'E' then
      let (negative, rest) := Decimal.splitSign rest
      let digits := rest.takeWhile Char.isDigit
      if digits.isEmpty then none
      else
        let significant := digits.dropWhile (· == '0')
        let n := if significant.length > 10 then Nat.pow 10 10 else Decimal.natOfDigits significant
        some (some (if negative then -(n : Int) else n), rest.dropWhile Char.isDigit)
    else some (none, c :: rest)

/-- The digits of a fraction after its point, if there is one, with what is left. -/
def readFraction : List Char → Option (Option (List Char) × List Char)
  | '.' :: rest =>
    let digits := rest.takeWhile Char.isDigit
    if digits.isEmpty then none else some (some digits, rest.dropWhile Char.isDigit)
  | rest => some (none, rest)

/-- A number, and what is left. -/
def readNumber (cs : List Char) : Option (Value × List Char) := do
  let (negative, rest) :=
    match cs with
    | '-' :: rest => (true, rest)
    | rest => (false, rest)
  let whole := rest.takeWhile Char.isDigit
  let rest := rest.dropWhile Char.isDigit
  if whole.isEmpty || (whole.head? == some '0' && whole.length > 1) then none
  else
    let (fraction, rest) ← readFraction rest
    let (power, rest) ← readPower rest
    let (digits, dropped) := significand 0 whole
    match fraction, power with
    | none, none =>
      if dropped == 0 then
        if !negative then some (.integer digits, rest)
        else if digits == 0 || digits > Nat.pow 2 63 then
          some (.double (Decimal.Binary64.ofNat digits).negate, rest)
        else some (.integer (-(digits : Int)), rest)
      else (double? negative digits dropped).map (·, rest)
    | fraction, power =>
      let fraction := fraction.getD []
      let (digits, ignored) := significand digits fraction
      let exponent : Int := dropped - ((fraction.length - ignored : Nat) : Int) + power.getD 0
      (double? negative digits exponent).map (·, rest)

/-- The text after a word, if it starts with the word. -/
def afterWord? : List Char → List Char → Option (List Char)
  | [], rest => some rest
  | _ :: _, [] => none
  | c :: word, d :: rest => if c = d then afterWord? word rest else none

mutual

/-- One value, and what is left; `depth` levels of nesting are allowed. -/
def readValue : (fuel depth : Nat) → List Char → Option (Value × List Char)
  | 0, _, _ => none
  | fuel + 1, depth, cs =>
    match skipSpace cs with
    | [] => none
    | '"' :: rest => (readQuoted rest).map fun (text, rest) => (.text (String.ofList text), rest)
    | '[' :: rest =>
      if depth = 0 then none
      else
        match skipSpace rest with
        | ']' :: rest => some (.array [], rest)
        | rest => (readItems fuel (depth - 1) rest).map fun (items, rest) => (.array items, rest)
    | '\x7b' :: rest =>
      if depth = 0 then none
      else
        match skipSpace rest with
        | '\x7d' :: rest => some (.object [], rest)
        | rest =>
          (readFields fuel (depth - 1) rest).map fun (fields, rest) =>
            (.object (ordered fields), rest)
    | 'n' :: rest => (afterWord? "ull".toList rest).map (.null, ·)
    | 't' :: rest => (afterWord? "rue".toList rest).map (.bool true, ·)
    | 'f' :: rest => (afterWord? "alse".toList rest).map (.bool false, ·)
    | c :: rest => if c == '-' || c.isDigit then readNumber (c :: rest) else none

/-- The elements of an array up to its closing bracket. -/
def readItems : (fuel depth : Nat) → List Char → Option (List Value × List Char)
  | 0, _, _ => none
  | fuel + 1, depth, cs =>
    (readValue fuel depth cs).bind fun (item, rest) =>
      match skipSpace rest with
      | ',' :: rest =>
        (readItems fuel depth rest).map fun (items, rest) => (item :: items, rest)
      | ']' :: rest => some ([item], rest)
      | _ => none

/-- The fields of an object up to its closing brace. -/
def readFields : (fuel depth : Nat) → List Char → Option (List (String × Value) × List Char)
  | 0, _, _ => none
  | fuel + 1, depth, cs =>
    match skipSpace cs with
    | '"' :: rest =>
      (readQuoted rest).bind fun (key, rest) =>
        match skipSpace rest with
        | ':' :: rest =>
          (readValue fuel depth rest).bind fun (value, rest) =>
            match skipSpace rest with
            | ',' :: rest =>
              (readFields fuel depth rest).map fun (fields, rest) =>
                ((String.ofList key, value) :: fields, rest)
            | '\x7d' :: rest => some ([(String.ofList key, value)], rest)
            | _ => none
        | _ => none
    | _ => none

end

/-- The deepest nesting of arrays and objects. -/
def maxDepth : Nat := 127

/-- The value at the front of a text; what follows it is not looked at. -/
def first? (text : String) : Option Value :=
  let cs := text.toList
  (readValue (2 * cs.length + 2) maxDepth cs).map (·.1)

/-- The value that a text holds, with nothing but white space after it. -/
def parse? (text : String) : Option Value :=
  let cs := text.toList
  (readValue (2 * cs.length + 2) maxDepth cs).bind fun (value, rest) =>
    if (skipSpace rest).isEmpty then some value else none

end Json
end Switchboard
