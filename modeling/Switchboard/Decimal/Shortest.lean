import Switchboard.Decimal.Binary64

/-!
# The fewest digits that read back

A positive double stands for the interval of reals that round to it.  The shortest decimal in that
interval is searched by the number of its digits: for each number, only the two neighbours of the
double on the grid of that many digits can lie inside, and the nearer of them is taken.
-/

namespace Switchboard
namespace Decimal

/-- A decimal `digits * 10 ^ exponent`. -/
structure Digits where
  digits : Nat
  exponent : Int
deriving DecidableEq, Repr

/-- The interval of a double in units of a quarter of its last binary digit, as
`low`, `value` and `high` over one denominator, with its ends included or not. -/
structure Interval where
  low : Nat
  value : Nat
  high : Nat
  den : Nat
  closed : Bool

/-- The interval of the double `mantissa * 2 ^ exponent`; the gap below a power of two is half as
wide as the one above. -/
def Interval.of (mantissa : Nat) (exponent : Int) : Interval :=
  let narrow := mantissa == Nat.pow 2 52 && decide (exponent > Binary64.minExponent)
  let shift := exponent - 2
  let (scale, den) := if shift < 0 then (1, Nat.pow 2 (-shift).toNat) else (Nat.pow 2 shift.toNat, 1)
  { low := (4 * mantissa - (if narrow then 1 else 2)) * scale
    value := 4 * mantissa * scale
    high := (4 * mantissa + 2) * scale
    den := den
    closed := mantissa % 2 == 0 }

/-- `10 ^ exponent` as a numerator and a denominator. -/
def tenTo (exponent : Int) : Nat × Nat :=
  if exponent < 0 then (1, Nat.pow 10 (-exponent).toNat) else (Nat.pow 10 exponent.toNat, 1)

/-- Whether a decimal lies in the interval. -/
def Interval.contains (interval : Interval) (d : Digits) : Bool :=
  let (num, den) := tenTo d.exponent
  let point := d.digits * num * interval.den
  let low := interval.low * den
  let high := interval.high * den
  if interval.closed then low ≤ point && point ≤ high else low < point && point < high

/-- The place of the first digit: the least `k` of a few candidates with the value below
`10 ^ k`. -/
def Interval.place (interval : Interval) : Int :=
  let guess : Int :=
    ((interval.value.log2 : Int) - interval.den.log2) * 30103 / 100000
  let below (k : Int) : Bool :=
    let (num, den) := tenTo k
    interval.value * den < num * interval.den
  ([guess - 2, guess - 1, guess, guess + 1, guess + 2].find? below).getD (guess + 3)

/-- The nearer one of the two neighbours on the grid of `count` digits that lie in the interval. -/
def Interval.onGrid? (interval : Interval) (count : Nat) : Option Digits :=
  let exponent := interval.place - count
  let (num, den) := tenTo exponent
  let value := interval.value * den
  let step := num * interval.den
  let floor : Digits := ⟨value / step, exponent⟩
  let ceiling : Digits := ⟨value / step + 1, exponent⟩
  match interval.contains floor && floor.digits != 0, interval.contains ceiling with
  | true, true => some (if 2 * (value % step) ≤ step then floor else ceiling)
  | true, false => some floor
  | false, true => some ceiling
  | false, false => none

/-- The decimal without zeros at the end of its digits, at most `fuel` of them. -/
def Digits.stripped : Nat → Digits → Digits
  | 0, d => d
  | fuel + 1, d =>
    if d.digits != 0 && d.digits % 10 == 0 then
      Digits.stripped fuel ⟨d.digits / 10, d.exponent + 1⟩
    else d

/-- The decimal of fewest digits that reads back to `mantissa * 2 ^ exponent`, the nearest of
those; the exact value, should there be none of seventeen digits. -/
def shortest (mantissa : Nat) (exponent : Int) : Digits :=
  let interval := Interval.of mantissa exponent
  let found := ((List.range 17).map (· + 1)).findSome? interval.onGrid?
  let exact : Digits :=
    if exponent < 0 then ⟨mantissa * Nat.pow 5 (-exponent).toNat, exponent⟩
    else ⟨mantissa * Nat.pow 2 exponent.toNat, 0⟩
  let d := found.getD exact
  Digits.stripped (Binary64.digitCount d.digits) d

end Decimal
end Switchboard
