import Switchboard.Decimal.Shortest

/-!
# Writing doubles

The digits of a double are laid out positionally or with an exponent; where which is used, and what
marks a whole number, is the choice of the format that holds the number.
-/

namespace Switchboard
namespace Decimal

/-- A format's choices for the digits of a number whose decimal point stands after `place` of
them. -/
structure Layout where
  /-- Whether the number is written without an exponent. -/
  positional : (place : Int) → Bool
  /-- What follows a number that is written without a fraction. -/
  wholeMark : String
  /-- The sign of an exponent that is not negative. -/
  plusMark : String

/-- Every number positionally, a whole one without a fraction. -/
def Layout.plain : Layout := ⟨fun _ => true, "", ""⟩

/-- Numbers from a hundred-thousandth up to ten to the sixteenth positionally, a whole one with one
zero as its fraction. -/
def Layout.json : Layout := ⟨fun place => -5 < place && place ≤ 16, ".0", "+"⟩

/-- That many zeros. -/
def zeros (count : Nat) : String :=
  String.ofList (List.replicate count '0')

/-- The digits laid out. -/
def Layout.write (layout : Layout) (d : Digits) : String :=
  let text := Nat.toDigits 10 d.digits
  let place := (text.length : Int) + d.exponent
  if layout.positional place then
    if d.exponent ≥ 0 then String.ofList text ++ zeros d.exponent.toNat ++ layout.wholeMark
    else if place > 0 then
      String.ofList (text.take place.toNat) ++ "." ++ String.ofList (text.drop place.toNat)
    else "0." ++ zeros (-place).toNat ++ String.ofList text
  else
    let power := place - 1
    let exponent := if power < 0 then "-" ++ toString power.natAbs
      else layout.plusMark ++ toString power.natAbs
    let fraction := text.drop 1
    String.ofList (text.take 1) ++
      (if fraction.isEmpty then "" else "." ++ String.ofList fraction) ++ "e" ++ exponent

def Layout.render (layout : Layout) : Binary64 → String
  | .notANumber => "NaN"
  | .infinite negative => (if negative then "-" else "") ++ "inf"
  | .finite negative mantissa exponent =>
    (if negative then "-" else "") ++
      (if mantissa == 0 then "0" ++ layout.wholeMark
      else layout.write (shortest mantissa exponent))

end Decimal
end Switchboard
