import Mathlib.Data.List.Basic
import Switchboard.Catalogue.ResultType

/-!
# Angle brackets that match

The brackets of a text are counted from the left to the right: none may be closed that is not open,
and in the end all must be closed (`bracketsMatch_iff_closesAll`).  That is the same as being built
from nothing by putting brackets around a matching sequence and by writing two of them one after the
other (`bracketsMatch_iff`).  A count with brackets still open is that of the whole sequence with the
open ones written in front, so the induction over the text needs no other statement.
-/

namespace Switchboard
namespace Catalogue

def isBracket (c : Char) : Bool := c == '<' || c == '>'

/-- A sequence of brackets that match: nothing, a matching sequence in brackets, or two of them one
after the other. -/
inductive IsBalanced : List Char → Prop
  | nil : IsBalanced []
  | nest {inner : List Char} (hInner : IsBalanced inner) : IsBalanced ('<' :: inner ++ ['>'])
  | append {front back : List Char} (hFront : IsBalanced front) (hBack : IsBalanced back) :
      IsBalanced (front ++ back)

/-! ### Counting -/

theorem bracketsMatch_open (depth : Nat) (rest : List Char) :
    bracketsMatch depth ('<' :: rest) = bracketsMatch (depth + 1) rest := rfl

theorem bracketsMatch_close (depth : Nat) (rest : List Char) :
    bracketsMatch (depth + 1) ('>' :: rest) = bracketsMatch depth rest := rfl

theorem bracketsMatch_other {c : Char} (hOther : isBracket c = false) (depth : Nat)
    (rest : List Char) : bracketsMatch depth (c :: rest) = bracketsMatch depth rest := by
  simp only [isBracket, Bool.or_eq_false_iff, beq_eq_false_iff_ne] at hOther
  rw [bracketsMatch.eq_def]
  simp only [if_neg hOther.1, if_neg hOther.2]

/-- Only the brackets of a text are counted. -/
theorem bracketsMatch_filter (depth : Nat) (text : List Char) :
    bracketsMatch depth (text.filter isBracket) = bracketsMatch depth text := by
  induction text generalizing depth with
  | nil => rfl
  | cons c rest ih =>
      cases hBracket : isBracket c with
      | false =>
          rw [List.filter_cons_of_neg (by simp [hBracket]), bracketsMatch_other hBracket, ih]
      | true =>
          rw [List.filter_cons_of_pos hBracket]
          simp only [isBracket, Bool.or_eq_true, beq_iff_eq] at hBracket
          rcases hBracket with rfl | rfl
          · rw [bracketsMatch_open, bracketsMatch_open, ih]
          · cases depth with
            | zero => rfl
            | succ depth => rw [bracketsMatch_close, bracketsMatch_close, ih]

/-- Brackets in front of a text are counted as open. -/
theorem bracketsMatch_replicate_append (depth : Nat) (text : List Char) :
    bracketsMatch 0 (List.replicate depth '<' ++ text) = bracketsMatch depth text := by
  have hOpen : ∀ start, bracketsMatch start (List.replicate depth '<' ++ text) =
      bracketsMatch (start + depth) text := by
    induction depth with
    | zero => exact fun _ => rfl
    | succ depth ih =>
        intro start
        rw [List.replicate_succ, List.cons_append, bracketsMatch_open, ih, Nat.add_right_comm,
          Nat.add_assoc]
  rw [hOpen 0, Nat.zero_add]

/-- A matching sequence leaves the count as it was. -/
theorem IsBalanced.bracketsMatch_append {front : List Char} (hBalanced : IsBalanced front)
    (depth : Nat) (back : List Char) :
    bracketsMatch depth (front ++ back) = bracketsMatch depth back := by
  induction hBalanced generalizing depth back with
  | nil => rfl
  | nest _ ih =>
      rw [List.cons_append, List.cons_append, bracketsMatch_open, List.append_assoc, ih,
        List.singleton_append, bracketsMatch_close]
  | append _ _ ihFront ihBack => rw [List.append_assoc, ihFront, ihBack]

/-! ### Open brackets -/

/-- How many more brackets a text opens than it closes, below zero if it closes more. -/
def openCount (text : List Char) : Int :=
  text.count '<' - text.count '>'

theorem openCount_cons (c : Char) (rest : List Char) :
    openCount (c :: rest) = openCount [c] + openCount rest := by
  simp only [openCount, List.count_cons, List.count_nil]
  omega

/-- With some brackets open in front of it, no start of the text closes more than are open, and the
whole closes all of them. -/
def ClosesAll (depth : Nat) (text : List Char) : Prop :=
  (∀ front, front <+: text → 0 ≤ depth + openCount front) ∧ depth + openCount text = 0

theorem closesAll_nil_iff (depth : Nat) : ClosesAll depth [] ↔ depth = 0 := by
  simp [ClosesAll, openCount]

/-- A character changes how many brackets are open behind it. -/
theorem closesAll_cons_iff {depth next : Nat} {c : Char}
    (hNext : (next : Int) = depth + openCount [c]) (rest : List Char) :
    ClosesAll depth (c :: rest) ↔ ClosesAll next rest := by
  have hCount (front : List Char) : depth + openCount (c :: front) = next + openCount front := by
    rw [openCount_cons, hNext]
    omega
  constructor
  · rintro ⟨hFronts, hWhole⟩
    refine ⟨fun front hFront => ?_, hCount rest ▸ hWhole⟩
    rw [← hCount]
    exact hFronts _ (List.cons_prefix_cons.mpr ⟨rfl, hFront⟩)
  · rintro ⟨hFronts, hWhole⟩
    refine ⟨fun front hFront => ?_, (hCount rest).trans hWhole⟩
    rcases List.prefix_cons_iff.mp hFront with rfl | ⟨more, rfl, hMore⟩
    · simp [openCount]
    · rw [hCount]
      exact hFronts _ hMore

/-- The scan counts the open brackets, and stops where one is closed that is not open. -/
theorem bracketsMatch_iff_closesAll (depth : Nat) (text : List Char) :
    bracketsMatch depth text = true ↔ ClosesAll depth text := by
  induction text generalizing depth with
  | nil => simp [bracketsMatch, closesAll_nil_iff]
  | cons c rest ih =>
      cases hBracket : isBracket c with
      | false =>
          have hPlain : c ≠ '<' ∧ c ≠ '>' := by simpa [isBracket] using hBracket
          have hNext : (depth : Int) = depth + openCount [c] := by simp [openCount, hPlain]
          rw [bracketsMatch_other hBracket, ih, closesAll_cons_iff hNext]
      | true =>
          simp only [isBracket, Bool.or_eq_true, beq_iff_eq] at hBracket
          rcases hBracket with rfl | rfl
          · have hNext : ((depth + 1 : Nat) : Int) = depth + openCount ['<'] := by simp [openCount]
            rw [bracketsMatch_open, ih, closesAll_cons_iff hNext]
          · cases depth with
            | zero =>
                -- The bracket alone already closes more than is open.
                refine ⟨nofun, fun hCloses => ?_⟩
                have hFirst := hCloses.1 ['>'] (List.cons_prefix_cons.mpr ⟨rfl, List.nil_prefix⟩)
                exact absurd hFirst (by simp [openCount])
            | succ depth =>
                have hCount : openCount ['>'] = -1 := by decide
                have hNext : (depth : Int) = (depth + 1 : Nat) + openCount ['>'] := by omega
                rw [bracketsMatch_close, ih, closesAll_cons_iff hNext]

/-! ### Matching -/

/-- Brackets with nothing between them may be written anywhere into a matching sequence. -/
theorem IsBalanced.insert_pair {front back : List Char} (hBalanced : IsBalanced (front ++ back)) :
    IsBalanced (front ++ '<' :: '>' :: back) := by
  have hPair : IsBalanced ['<', '>'] := .nest .nil
  generalize hWhole : front ++ back = whole at hBalanced
  induction hBalanced generalizing front back with
  | nil =>
      obtain ⟨rfl, rfl⟩ := List.append_eq_nil_iff.mp hWhole
      exact hPair
  | @nest inner hInner ih =>
      cases front with
      | nil =>
          obtain rfl : back = '<' :: inner ++ ['>'] := hWhole
          exact hPair.append (.nest hInner)
      | cons c front =>
          obtain ⟨rfl, hTail⟩ := List.cons.inj hWhole
          have hRest : front ++ back = inner ++ ['>'] := hTail
          -- The place is inside the outer brackets, or behind them.
          rcases List.eq_nil_or_concat back with rfl | ⟨before, last, rfl⟩
          · rw [List.append_nil] at hRest
            subst hRest
            exact (IsBalanced.nest hInner).append hPair
          · rw [List.concat_eq_append, ← List.append_assoc] at hRest
            obtain ⟨rfl, hLast⟩ := List.append_inj' hRest rfl
            obtain rfl : last = '>' := List.singleton_inj.mp hLast
            have hNext := (ih rfl).nest
            simpa using hNext
  | @append first second hFirst hSecond ihFirst ihSecond =>
      rcases List.append_eq_append_iff.mp hWhole with ⟨more, rfl, rfl⟩ | ⟨more, rfl, rfl⟩
      · have hNext := (ihFirst rfl).append hSecond
        simpa using hNext
      · have hNext := hFirst.append (ihSecond rfl)
        simpa using hNext

theorem isBalanced_of_bracketsMatch {depth : Nat} {brackets : List Char}
    (hOnly : ∀ c ∈ brackets, isBracket c = true)
    (hMatch : bracketsMatch depth brackets = true) :
    IsBalanced (List.replicate depth '<' ++ brackets) := by
  induction brackets generalizing depth with
  | nil =>
      obtain rfl : depth = 0 := by simpa [bracketsMatch] using hMatch
      exact .nil
  | cons c rest ih =>
      obtain ⟨hFirst, hRest⟩ := List.forall_mem_cons.mp hOnly
      simp only [isBracket, Bool.or_eq_true, beq_iff_eq] at hFirst
      rcases hFirst with rfl | rfl
      · have hNext := ih hRest ((bracketsMatch_open depth rest).symm.trans hMatch)
        rwa [List.replicate_succ', List.append_assoc, List.singleton_append] at hNext
      · cases depth with
        | zero => exact nomatch hMatch
        | succ depth =>
            have hNext := ih hRest ((bracketsMatch_close depth rest).symm.trans hMatch)
            rw [List.replicate_succ', List.append_assoc, List.singleton_append]
            exact hNext.insert_pair

/-- The brackets of a text match what is open in front of it. -/
theorem bracketsMatch_iff (depth : Nat) (text : List Char) :
    bracketsMatch depth text = true ↔
      IsBalanced (List.replicate depth '<' ++ text.filter isBracket) := by
  rw [← bracketsMatch_filter]
  constructor
  · exact isBalanced_of_bracketsMatch fun c hc => (List.mem_filter.mp hc).2
  · intro hBalanced
    rw [← bracketsMatch_replicate_append, ← List.append_nil (_ ++ _),
      hBalanced.bracketsMatch_append]
    rfl

/-- **The scan of the brackets decides the grammar.**  It succeeds exactly for the texts whose
brackets are a matching sequence; these are the texts in which the count of open brackets never falls
below zero and comes back to zero in the end. -/
theorem bracket_scan_is_exact (text : List Char) :
    (bracketsMatch 0 text = true ↔ IsBalanced (text.filter isBracket)) ∧
      (bracketsMatch 0 text = true ↔
        (∀ front, front <+: text → 0 ≤ openCount front) ∧ openCount text = 0) := by
  refine ⟨bracketsMatch_iff 0 text, ?_⟩
  rw [bracketsMatch_iff_closesAll]
  simp only [ClosesAll, Int.natCast_zero, Int.zero_add]

end Catalogue
end Switchboard
