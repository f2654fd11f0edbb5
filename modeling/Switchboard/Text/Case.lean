import Switchboard.Text.CaseTable

/-!
# Letter case

Full case mappings: a letter may turn into several, and a capital sigma at the end of a word turns
into the final form.  The first 128 characters are mapped without the tables.
-/

namespace Switchboard
namespace Text

/-- Whether a code point lies in one of the closed ranges. -/
def inRanges (table : List (Nat × Nat)) (n : Nat) : Bool :=
  table.any fun range => range.1 ≤ n && n ≤ range.2

/-- Whether a run maps the code point. -/
def CaseTable.Run.covers (run : CaseTable.Run) (n : Nat) : Bool :=
  run.first ≤ n && n ≤ run.last && (n - run.first) % run.step == 0

/-- The code point that a run table gives, itself if no run covers it. -/
def shifted (table : List CaseTable.Run) (n : Nat) : Nat :=
  match table.find? (·.covers n) with
  | some run => (Int.ofNat n + run.shift).toNat
  | none => n

/-- The lower-case form of one character, out of context. -/
def lowerChar (c : Char) : List Char :=
  if c.toNat < 128 then [c.toLower]
  else if c.toNat == 0x130 then ['i', Char.ofNat 0x307]
  else [Char.ofNat (shifted CaseTable.lower c.toNat)]

/-- The upper-case form of one character. -/
def upperChar (c : Char) : List Char :=
  if c.toNat < 128 then [c.toUpper]
  else
    match CaseTable.upperMany.find? (·.1 == c.toNat) with
    | some (_, many) => many.map Char.ofNat
    | none => [Char.ofNat (shifted CaseTable.upper c.toNat)]

/-- Whether the first character that is not passed over is a letter with case. -/
def startsCased (cs : List Char) : Bool :=
  match cs.dropWhile (fun c => inRanges CaseTable.ignorable c.toNat) with
  | c :: _ => inRanges CaseTable.cased c.toNat
  | [] => false

/-- The lower-case form of what follows the characters `before`, which stand in reverse: a capital
sigma takes its final form after a cased letter and before none. -/
def lowerAfter : List Char → List Char → List Char
  | _, [] => []
  | before, c :: rest =>
    let lowered :=
      if c == 'Σ' then [if startsCased before && !startsCased rest then 'ς' else 'σ']
      else lowerChar c
    lowered ++ lowerAfter (c :: before) rest

def toLower (cs : List Char) : List Char :=
  lowerAfter [] cs

def toUpper (cs : List Char) : List Char :=
  cs.flatMap upperChar

end Text
end Switchboard
