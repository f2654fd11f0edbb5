import Switchboard.Decimal.Reading

/-!
# Dates and times

A date, a time of day, or both with an offset from universal time, and their canonical spelling: the
two are joined by `T`, zeros at the end of a fraction are dropped, and an offset is `Z` or hours with
a sign and minutes.
-/

namespace Switchboard
namespace Toml

/-- A number with zeros in front up to the given width. -/
def padded (width n : Nat) : String :=
  let digits := (toString n).toList
  String.ofList (List.replicate (width - digits.length) '0' ++ digits)

/-- The offset from universal time. -/
inductive Offset where
  | zero
  | shifted (hours : Int) (minutes : Nat)
deriving DecidableEq, Repr

/-- A time of day; the fraction of a second has nine digits. -/
structure TimeOfDay where
  hour : Nat
  minute : Nat
  second : Nat
  fraction : Nat
deriving DecidableEq, Repr

/-- A day of a month of a year. -/
structure Day where
  year : Nat
  month : Nat
  day : Nat
deriving DecidableEq, Repr

/-- A date, a time of day, or both, with an offset. -/
structure Moment where
  day : Option Day
  time : Option TimeOfDay
  offset : Option Offset
deriving DecidableEq, Repr

def Offset.render : Offset → String
  | .zero => "Z"
  | .shifted hours minutes =>
    (if hours < 0 then "-" else "+") ++ padded 2 hours.natAbs ++ ":" ++ padded 2 minutes

def TimeOfDay.render (time : TimeOfDay) : String :=
  let fraction := (padded 9 time.fraction).toList.reverse.dropWhile (· == '0')
  padded 2 time.hour ++ ":" ++ padded 2 time.minute ++ ":" ++ padded 2 time.second ++
    (if fraction.isEmpty then "" else "." ++ String.ofList fraction.reverse)

def Day.render (day : Day) : String :=
  padded 4 day.year ++ "-" ++ padded 2 day.month ++ "-" ++ padded 2 day.day

def Moment.render (moment : Moment) : String :=
  (moment.day.map Day.render).getD "" ++
    (if moment.day.isSome && moment.time.isSome then "T" else "") ++
    (moment.time.map TimeOfDay.render).getD "" ++ (moment.offset.map Offset.render).getD ""

/-- A number of exactly `count` digits, and what is left. -/
def readFixed? (count : Nat) (text : List Char) : Option (Nat × List Char) :=
  let digits := text.take count
  if digits.length == count && digits.all Char.isDigit then
    some (Decimal.natOfDigits digits, text.drop count)
  else none

/-- What is left after one given character. -/
def after? (c : Char) : List Char → Option (List Char)
  | d :: rest => if d == c then some rest else none
  | [] => none

/-- A day, and what is left. -/
def readDay? (text : List Char) : Option (Day × List Char) := do
  let (year, text) ← readFixed? 4 text
  let text ← after? '-' text
  let (month, text) ← readFixed? 2 text
  let text ← after? '-' text
  let (day, text) ← readFixed? 2 text
  if 1 ≤ month && month ≤ 12 && 1 ≤ day && day ≤ 31 then some (⟨year, month, day⟩, text) else none

/-- A fraction of a second cut to nine digits, and what is left. -/
def readFraction? (text : List Char) : Option (Nat × List Char) :=
  match text with
  | '.' :: rest =>
    let digits := rest.takeWhile Char.isDigit
    if digits.isEmpty then none
    else
      let nine := digits.take 9 ++ List.replicate (9 - digits.length) '0'
      some (Decimal.natOfDigits nine, rest.dropWhile Char.isDigit)
  | text => some (0, text)

/-- A time of day, and what is left. -/
def readTime? (text : List Char) : Option (TimeOfDay × List Char) := do
  let (hour, text) ← readFixed? 2 text
  let text ← after? ':' text
  let (minute, text) ← readFixed? 2 text
  let text ← after? ':' text
  let (second, text) ← readFixed? 2 text
  let (fraction, text) ← readFraction? text
  if hour ≤ 24 && minute ≤ 59 && second ≤ 59 then some (⟨hour, minute, second, fraction⟩, text)
  else none

/-- The offset that makes up the whole text, if there is one. -/
def readOffset? : List Char → Option (Option Offset)
  | [] => some none
  | ['Z'] | ['z'] => some (some .zero)
  | sign :: text => do
    let (hours, text) ← readFixed? 2 text
    let text ← after? ':' text
    let (minutes, text) ← readFixed? 2 text
    if !text.isEmpty then none
    else if sign == '+' then some (some (.shifted hours minutes))
    else if sign == '-' then some (some (.shifted (-hours) minutes))
    else none

/-- The moment that a text spells. -/
def readMoment? (text : List Char) : Option Moment :=
  if text[2]? == some ':' then
    match readTime? text with
    | some (time, []) => some ⟨none, some time, none⟩
    | _ => none
  else do
    let (day, text) ← readDay? text
    match text with
    | 'T' :: rest | 't' :: rest | ' ' :: rest => do
      let (time, text) ← readTime? rest
      return ⟨some day, some time, ← readOffset? text⟩
    | text => return ⟨some day, none, ← readOffset? text⟩

end Toml
end Switchboard
