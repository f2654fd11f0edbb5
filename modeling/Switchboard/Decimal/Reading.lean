import Switchboard.Decimal.Binary64

/-!
# Reading numbers

Whole numbers with an optional sign that must fit a range, and decimals with an optional fraction
and exponent.  A number that cannot be read has one cause: the first character at which reading
fails decides it.
-/

namespace Switchboard
namespace Decimal

/-- Why a text is not a whole number of the wanted range. -/
inductive IntegerFault where
  | empty
  | digit
  | tooLarge
  | tooSmall
deriving DecidableEq, Repr

def IntegerFault.message : IntegerFault → String
  | .empty => "cannot parse integer from empty string"
  | .digit => "invalid digit found in string"
  | .tooLarge => "number too large to fit in target type"
  | .tooSmall => "number too small to fit in target type"

/-- The value of a decimal digit. -/
def digitValue (c : Char) : Nat := c.toNat - '0'.toNat

/-- The number whose digits so far gave `value`, which may not exceed `limit`. -/
def readDigits (limit : Nat) (excess : IntegerFault) : Nat → List Char → Except IntegerFault Nat
  | value, [] => .ok value
  | value, c :: rest =>
    if !c.isDigit then .error .digit
    else
      let next := value * 10 + digitValue c
      if next > limit then .error excess else readDigits limit excess next rest

/-- A natural number up to `limit`, possibly with a plus sign. -/
def readNat (limit : Nat) : List Char → Except IntegerFault Nat
  | [] => .error .empty
  | ['+'] => .error .digit
  | '+' :: digits => readDigits limit .tooLarge 0 digits
  | digits => readDigits limit .tooLarge 0 digits

/-- The largest signed whole number of 64 binary digits. -/
def maxInt64 : Nat := Nat.pow 2 63 - 1

/-- The largest whole number of 64 binary digits without a sign. -/
def maxUInt64 : Nat := Nat.pow 2 64 - 1

/-- A signed whole number of 64 binary digits. -/
def readInt64 : List Char → Except IntegerFault Int
  | [] => .error .empty
  | ['+'] | ['-'] => .error .digit
  | '-' :: digits => (readDigits (Nat.pow 2 63) .tooSmall 0 digits).map fun n => -(n : Int)
  | '+' :: digits => (readDigits maxInt64 .tooLarge 0 digits).map Int.ofNat
  | digits => (readDigits maxInt64 .tooLarge 0 digits).map Int.ofNat

/-- A whole number in the given base up to `limit`, if the text is one. -/
def readBase? (base limit : Nat) (digits : List Char) : Option Nat :=
  let value (c : Char) : Option Nat :=
    let n :=
      if c.isDigit then c.toNat - '0'.toNat
      else if 'a' ≤ c && c ≤ 'z' then c.toNat - 'a'.toNat + 10
      else if 'A' ≤ c && c ≤ 'Z' then c.toNat - 'A'.toNat + 10
      else base
    if n < base then some n else none
  if digits.isEmpty then none
  else digits.foldlM (fun total c =>
    (value c).bind fun n => if total * base + n ≤ limit then some (total * base + n) else none) 0

/-- The value of a run of decimal digits. -/
def natOfDigits (digits : List Char) : Nat :=
  digits.foldl (fun total c => total * 10 + digitValue c) 0

/-- A sign in front of a number, and the rest. -/
def splitSign : List Char → Bool × List Char
  | '-' :: rest => (true, rest)
  | '+' :: rest => (false, rest)
  | rest => (false, rest)

/-- The exponent that stands after the mark `e`, if there is one. -/
def readExponent? : List Char → Option Int
  | [] => some 0
  | c :: rest =>
    if c == 'e' || c == 'E' then
      let (negative, digits) := splitSign rest
      if digits.isEmpty || !digits.all Char.isDigit then none
      else
        -- Beyond nine digits the value is settled: it is zero or infinite.
        let significant := digits.dropWhile (· == '0')
        let n := if significant.length > 9 then Nat.pow 10 9 else natOfDigits significant
        some (if negative then -(n : Int) else n)
    else none

/-- A double: a decimal with optional sign, fraction and exponent, rounded to nearest, or the words
for an infinity and for no number in any case. -/
def readDouble? (text : List Char) : Option Binary64 :=
  let (negative, body) := splitSign text
  let word := body.map Char.toLower
  if word == "inf".toList || word == "infinity".toList then some (.infinite negative)
  else if word == "nan".toList then some .notANumber
  else
    let whole := body.takeWhile Char.isDigit
    let afterWhole := body.dropWhile Char.isDigit
    let (fraction, tail) :=
      match afterWhole with
      | '.' :: rest => (rest.takeWhile Char.isDigit, rest.dropWhile Char.isDigit)
      | _ => ([], afterWhole)
    if whole.isEmpty && fraction.isEmpty then none
    else
      (readExponent? tail).map fun exponent =>
        .ofDecimal negative (natOfDigits (whole ++ fraction)) (exponent - fraction.length)

end Decimal
end Switchboard
