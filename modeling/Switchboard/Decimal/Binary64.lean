/-!
# Double-precision numbers

A double is a sign and a natural number of at most 53 binary digits times a power of two, or an
infinity, or no number.  Quotients of natural numbers are rounded to the nearest double in exact
arithmetic, a tie to the even neighbour; multiplication, division and the reading of decimals are
that rounding of an exact value.
-/

namespace Switchboard
namespace Decimal

/-- A double: `mantissa * 2 ^ exponent` with a sign, or a value that is not finite. -/
inductive Binary64 where
  | finite (negative : Bool) (mantissa : Nat) (exponent : Int)
  | infinite (negative : Bool)
  | notANumber
deriving DecidableEq, Repr

namespace Binary64

/-- The exponent of the smallest positive double. -/
def minExponent : Int := -1074

/-- The exponent of the largest finite doubles. -/
def maxExponent : Int := 971

/-- Zero with a sign. -/
def zero (negative : Bool) : Binary64 := .finite negative 0 minExponent

/-- `num / den` rounded to a whole number, a tie to the even one. -/
def roundHalfEven (num den : Nat) : Nat :=
  let quotient := num / den
  let twice := 2 * (num % den)
  if twice > den || (twice == den && quotient % 2 == 1) then quotient + 1 else quotient

/-- `num / (den * 2 ^ exponent)` rounded to a whole number. -/
def scaledQuotient (num den : Nat) (exponent : Int) : Nat :=
  if exponent < 0 then roundHalfEven (num * Nat.pow 2 (-exponent).toNat) den
  else roundHalfEven num (den * Nat.pow 2 exponent.toNat)

/-- The exponent at which `num / den` has a mantissa of 53 digits, or the smallest exponent. -/
def exponentOf (num den : Nat) : Int :=
  let guess : Int := (num.log2 : Int) - den.log2 - 52
  let reached : Bool :=
    if guess < 0 then den * Nat.pow 2 52 ≤ num * Nat.pow 2 (-guess).toNat
    else den * Nat.pow 2 guess.toNat * Nat.pow 2 52 ≤ num
  max (if reached then guess else guess - 1) minExponent

/-- The double nearest to `num / den`. -/
def ofRatio (negative : Bool) (num den : Nat) : Binary64 :=
  if num == 0 then zero negative
  else
    let exponent := exponentOf num den
    let mantissa := scaledQuotient num den exponent
    let (mantissa, exponent) :=
      if mantissa == Nat.pow 2 53 then (Nat.pow 2 52, exponent + 1) else (mantissa, exponent)
    if exponent > maxExponent then .infinite negative else .finite negative mantissa exponent

def ofNat (n : Nat) : Binary64 := ofRatio false n 1

def ofInt (n : Int) : Binary64 := ofRatio (decide (n < 0)) n.natAbs 1

/-- The number of decimal digits of a natural number, at least one. -/
def digitCount (n : Nat) : Nat := (Nat.toDigits 10 n).length

/-- The double nearest to `digits * 10 ^ exponent`.  Exponents far outside the range of doubles are
settled without computing the power. -/
def ofDecimal (negative : Bool) (digits : Nat) (exponent : Int) : Binary64 :=
  let place := (digitCount digits : Int) + exponent
  if digits == 0 || place < -400 then zero negative
  else if place > 400 then .infinite negative
  else if exponent < 0 then ofRatio negative digits (Nat.pow 10 (-exponent).toNat)
  else ofRatio negative (digits * Nat.pow 10 exponent.toNat) 1

def isZero : Binary64 → Bool
  | .finite _ mantissa _ => mantissa == 0
  | _ => false

def negate : Binary64 → Binary64
  | .finite negative mantissa exponent => .finite (!negative) mantissa exponent
  | .infinite negative => .infinite (!negative)
  | .notANumber => .notANumber

/-- A quotient `num * 2 ^ shift / den` rounded to the nearest double. -/
def ofScaledRatio (negative : Bool) (num den : Nat) (shift : Int) : Binary64 :=
  if shift < 0 then ofRatio negative num (den * Nat.pow 2 (-shift).toNat)
  else ofRatio negative (num * Nat.pow 2 shift.toNat) den

/-- The product of two finite doubles, rounded; no number otherwise. -/
def mul : Binary64 → Binary64 → Binary64
  | .finite s m e, .finite s' m' e' => ofScaledRatio (s != s') (m * m') 1 (e + e')
  | _, _ => .notANumber

/-- The quotient of a finite double by a finite one other than zero, rounded; no number otherwise. -/
def div : Binary64 → Binary64 → Binary64
  | .finite s m e, .finite s' m' e' =>
    if m' == 0 then .notANumber else ofScaledRatio (s != s') m m' (e - e')
  | _, _ => .notANumber

end Binary64
end Decimal
end Switchboard
