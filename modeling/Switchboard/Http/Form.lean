import Switchboard.Text.Split

/-!
# Form data

Pairs of names and values in a query string: pairs stand between ampersands, a name ends at the first
equals sign, a plus sign is a blank, and an octet may be written as a percent sign with two
hexadecimal digits.  Octets that are no text are replaced, so every query string has pairs.
-/

namespace Switchboard
namespace Http

/-- An octet. -/
abbrev Octet := UInt8

/-- The octets of a text. -/
def octets (cs : List Char) : List Octet :=
  cs.flatMap String.utf8EncodeChar

/-- What stands for octets that are no text. -/
def replacement : Char := Char.ofNat 0xFFFD

/-- The octets at the start that may continue a character: `count` at most, the first of them from
`low` to `high`. -/
def continuation : Nat → Nat → Nat → List Octet → List Nat
  | 0, _, _, _ => []
  | _ + 1, _, _, [] => []
  | count + 1, low, high, octet :: rest =>
    if low ≤ octet.toNat ∧ octet.toNat ≤ high then
      octet.toNat :: continuation count 0x80 0xBF rest
    else []

/-- What the first octet of a character asks for: how many octets follow, the range of the next one,
and the bits that the first octet gives. -/
def leading? (n : Nat) : Option (Nat × Nat × Nat × Nat) :=
  if n < 0x80 then some (0, 0x80, 0xBF, n)
  else if n < 0xC2 then none
  else if n < 0xE0 then some (1, 0x80, 0xBF, n - 0xC0)
  else if n = 0xE0 then some (2, 0xA0, 0xBF, 0)
  else if n = 0xED then some (2, 0x80, 0x9F, 0xD)
  else if n < 0xF0 then some (2, 0x80, 0xBF, n - 0xE0)
  else if n = 0xF0 then some (3, 0x90, 0xBF, 0)
  else if n < 0xF4 then some (3, 0x80, 0xBF, n - 0xF0)
  else if n = 0xF4 then some (3, 0x80, 0x8F, 4)
  else none

/-- The first character of some octets, and how many octets after the first one it takes. -/
def firstChar (octet : Octet) (rest : List Octet) : Char × Nat :=
  match leading? octet.toNat with
  | none => (replacement, 0)
  | some (count, low, high, bits) =>
    let more := continuation count low high rest
    if more.length = count then
      (Char.ofNat (more.foldl (fun total n => total * 64 + (n - 0x80)) bits), count)
    else (replacement, more.length)

/-- The text of some octets; the longest start of a character that is never completed is replaced as
one. -/
def decodeOctets : List Octet → List Char
  | [] => []
  | octet :: rest =>
    let first := firstChar octet rest
    first.1 :: decodeOctets (rest.drop first.2)
termination_by octets => octets.length
decreasing_by simp only [List.length_drop, List.length_cons]; omega

/-- The value of a hexadecimal digit. -/
def hexValue? (octet : Octet) : Option Nat :=
  let n := octet.toNat
  if 0x30 ≤ n ∧ n ≤ 0x39 then some (n - 0x30)
  else if 0x41 ≤ n ∧ n ≤ 0x46 then some (n - 0x37)
  else if 0x61 ≤ n ∧ n ≤ 0x66 then some (n - 0x57)
  else none

/-- The octet that the two digits at the start write. -/
def escaped? : List Octet → Option Octet
  | high :: low :: _ => do
    let high ← hexValue? high
    let low ← hexValue? low
    return UInt8.ofNat (high * 16 + low)
  | _ => none

/-- The octets with those read that are written with a percent sign; a percent sign without two
digits stays. -/
def percentDecode : List Octet → List Octet
  | [] => []
  | octet :: rest =>
    match if octet = 0x25 then escaped? rest else none with
    | some value => value :: percentDecode (rest.drop 2)
    | none => octet :: percentDecode rest
termination_by octets => octets.length
decreasing_by all_goals simp only [List.length_drop, List.length_cons]; omega

/-- The text that a name or a value stands for. -/
def decodePart (part : List Char) : String :=
  let blanked := part.map fun c => if c == '+' then ' ' else c
  String.ofList (decodeOctets (percentDecode (octets blanked)))

/-- The pairs of a query string; empty ones are passed over. -/
def pairs (query : String) : List (String × String) :=
  let parts := (Text.split (· == '&') query.toList).filter (!·.isEmpty)
  parts.map fun part =>
    (decodePart (part.takeWhile (· != '=')), decodePart ((part.dropWhile (· != '=')).drop 1))

end Http
end Switchboard
