import Switchboard.Proofs.Http.Pattern

/-!
# Patterns of shapes

The names of parameters play no part in a pattern, so it is the pattern of a shape: of segments that
are a colon, a star or plain text without marks.  Two patterns of different shapes clash exactly if
one has a colon where the other has a star, behind the same segments (`clashes_ofShapes_iff`).
Texts in which a mark stands inside a segment have patterns too, but none of this form.
-/

namespace Switchboard
namespace Http
namespace Pattern

/-- The pattern of a segment of a shape. -/
def ofSegment (shape : String) : Pattern :=
  if shape = ":" then [.param] else if shape = "*" then [.rest] else shape.toList.map .literal

/-- The pattern of the segments of a shape with slashes between them. -/
def ofShapes : List String → Pattern
  | [] => []
  | [shape] => ofSegment shape
  | shape :: next :: shapes => ofSegment shape ++ .literal '/' :: ofShapes (next :: shapes)

/-- A text without marks and slashes. -/
def IsPlain (text : String) : Prop :=
  ∀ c ∈ text.toList, isMark c = false ∧ c ≠ '/'

/-- A segment of a shape: a mark, or plain text. -/
inductive IsShape : String → Prop
  | colon : IsShape ":"
  | star : IsShape "*"
  | plain {text : String} (hPlain : IsPlain text) : IsShape text

/-- Only the last segment is a star. -/
def StarsLast (shapes : List String) : Prop :=
  ∀ index, shapes[index]? = some "*" → index + 1 = shapes.length

theorem IsPlain.ne_mark {text : String} (hPlain : IsPlain text) : text ≠ ":" ∧ text ≠ "*" := by
  constructor
  · rintro rfl
    exact absurd (hPlain ':' (by decide)).1 (by decide)
  · rintro rfl
    exact absurd (hPlain '*' (by decide)).1 (by decide)

theorem IsPlain.slash_not_mem {text : String} (hPlain : IsPlain text) : '/' ∉ text.toList :=
  fun hMem => (hPlain '/' hMem).2 rfl

theorem ofSegment_plain {text : String} (hPlain : IsPlain text) :
    ofSegment text = text.toList.map .literal := by
  rw [ofSegment, if_neg hPlain.ne_mark.1, if_neg hPlain.ne_mark.2]

theorem rest_mem_ofSegment_iff {shape : String} : .rest ∈ ofSegment shape ↔ shape = "*" := by
  unfold ofSegment
  split_ifs with hColon hStar
  · simp [hColon]
  · simp [hStar]
  · simp [hStar]

theorem StarsLast.tail {shape : String} {shapes : List String}
    (hStars : StarsLast (shape :: shapes)) : StarsLast shapes := fun index hIndex =>
  Nat.succ_injective (hStars (index + 1) hIndex)

theorem StarsLast.head {shape next : String} {shapes : List String}
    (hStars : StarsLast (shape :: next :: shapes)) : shape ≠ "*" := by
  rintro rfl
  simpa using hStars 0 rfl

/-! ## Reading -/

/-- Segments that are each read as the pattern of their shape are read together as that of the whole
shape, exactly if the stars among them are last. -/
theorem read?_join_eq_some_iff {template : List (List Char)} {shapes : List String}
    (hEach : List.Forall₂ (fun part shape => '/' ∉ part ∧ read? part = some (ofSegment shape))
      template shapes) (hNe : template ≠ []) (pattern : Pattern) :
    read? (Text.join '/' template) = some pattern ↔
      StarsLast shapes ∧ pattern = ofShapes shapes := by
  induction hEach generalizing pattern with
  | nil => exact absurd rfl hNe
  | @cons part shape template shapes hPart hRest ih =>
    cases hRest with
    | nil =>
      have hLast : StarsLast [shape] := fun index hIndex => by
        have := (List.getElem?_eq_some_iff.mp hIndex).1
        simp only [List.length_singleton] at this ⊢
        omega
      rw [Text.join, hPart.2, ofShapes, Option.some.injEq]
      exact ⟨fun h => ⟨hLast, h.symm⟩, fun h => h.2.symm⟩
    | @cons next other more others hNext hMore =>
      rw [Text.join, read?_append_slash hPart.1, hPart.2, Option.bind_some]
      by_cases hStar : shape = "*"
      · -- More segments follow, so this star is neither read nor last.
        subst hStar
        rw [if_pos (rest_mem_ofSegment_iff.mpr rfl)]
        exact iff_of_false (by simp) fun h => h.1.head rfl
      · rw [if_neg (mt rest_mem_ofSegment_iff.mp hStar)]
        have hTail : StarsLast (shape :: other :: others) ↔ StarsLast (other :: others) := by
          refine ⟨StarsLast.tail, fun hStars index hIndex => ?_⟩
          cases index with
          | zero => exact absurd (Option.some.inj hIndex) hStar
          | succ index => exact congrArg Nat.succ (hStars index hIndex)
        rw [hTail, Option.map_eq_some_iff]
        constructor
        · rintro ⟨rest, hRead, rfl⟩
          obtain ⟨hStars, rfl⟩ := (ih (by simp) rest).mp hRead
          exact ⟨hStars, rfl⟩
        · rintro ⟨hStars, rfl⟩
          exact ⟨_, (ih (by simp) _).mpr ⟨hStars, rfl⟩, rfl⟩

theorem count_ofShapes (shapes : List String) :
    (ofShapes shapes).count .param = shapes.count ":" := by
  have hSegment : ∀ shape, (ofSegment shape).count .param = if shape = ":" then 1 else 0 := by
    intro shape
    unfold ofSegment
    split_ifs
    · rfl
    · rfl
    · exact List.count_eq_zero.mpr (by simp)
  induction shapes with
  | nil => rfl
  | cons shape shapes ih =>
    have hHead : (shape :: shapes).count ":" = shapes.count ":" + if shape = ":" then 1 else 0 := by
      simp [List.count_cons]
    cases shapes with
    | nil => rw [ofShapes, hSegment, hHead, List.count_nil, Nat.zero_add]
    | cons next more =>
      rw [ofShapes, List.count_append, List.count_cons, ih, hSegment, hHead]
      simp [Nat.add_comm]

/-! ## Clashes -/

/-- One shape has a colon where the other has a star, behind the same segments. -/
def MixesKinds (shapes others : List String) : Prop :=
  ∃ index, shapes.take index = others.take index ∧
    ((shapes[index]? = some ":" ∧ others[index]? = some "*") ∨
      (shapes[index]? = some "*" ∧ others[index]? = some ":"))

theorem mixesKinds_cons_iff {shape other : String} {shapes others : List String} :
    MixesKinds (shape :: shapes) (other :: others) ↔
      (shape = ":" ∧ other = "*" ∨ shape = "*" ∧ other = ":") ∨
        (shape = other ∧ MixesKinds shapes others) := by
  constructor
  · rintro ⟨index, hSame, hMixed⟩
    cases index with
    | zero => exact Or.inl (by simpa using hMixed)
    | succ index =>
      obtain ⟨hHead, hTail⟩ := List.cons.inj hSame
      exact Or.inr ⟨hHead, index, hTail, hMixed⟩
  · rintro (hMixed | ⟨rfl, index, hSame, hMixed⟩)
    · exact ⟨0, rfl, by simpa using hMixed⟩
    · exact ⟨index + 1, by simp [hSame], hMixed⟩

theorem not_mixesKinds_nil (others : List String) : ¬MixesKinds [] others := by
  rintro ⟨index, -, ⟨hIndex, -⟩ | ⟨hIndex, -⟩⟩
  · exact nomatch hIndex
  · exact nomatch hIndex

theorem MixesKinds.symm {shapes others : List String} (hMixes : MixesKinds shapes others) :
    MixesKinds others shapes := by
  obtain ⟨index, hSame, hMixed⟩ := hMixes
  exact ⟨index, hSame.symm, hMixed.symm.imp And.symm And.symm⟩

/-- The pattern of further segments behind a slash, or nothing. -/
def afterSlash : List String → Pattern
  | [] => []
  | shape :: shapes => .literal '/' :: ofShapes (shape :: shapes)

theorem ofShapes_cons (shape : String) (shapes : List String) :
    ofShapes (shape :: shapes) = ofSegment shape ++ afterSlash shapes := by
  cases shapes with
  | nil => simp [ofShapes, afterSlash]
  | cons next shapes => rfl

/-- What two patterns begin with alike does not matter, unless it takes all that is left. -/
theorem clashes_append_left {first : Pattern} (hRest : .rest ∉ first) (pattern other : Pattern) :
    clashes (first ++ pattern) (first ++ other) = clashes pattern other := by
  induction first with
  | nil => rfl
  | cons part first ih =>
    obtain ⟨hPart, hFirst⟩ := not_or.mp (mt List.mem_cons.mpr hRest)
    cases part with
    | literal c => simp [clashes, ih hFirst]
    | param => simp [clashes, ih hFirst]
    | rest => exact absurd rfl hPart

/-- Different plain texts do not clash, whatever follows them. -/
theorem clashes_plain_eq_false {cs ds : List Char} (hNe : cs ≠ ds) (hFree : '/' ∉ cs)
    (hOtherFree : '/' ∉ ds) (shapes others : List String) :
    clashes (cs.map .literal ++ afterSlash shapes) (ds.map .literal ++ afterSlash others) =
      false := by
  induction cs generalizing ds with
  | nil =>
    cases ds with
    | nil => exact absurd rfl hNe
    | cons d ds =>
      have hSlash : '/' ≠ d := (not_or.mp (mt List.mem_cons.mpr hOtherFree)).1
      cases shapes with
      | nil => simp [afterSlash, clashes]
      | cons shape shapes => simp [afterSlash, clashes, hSlash]
  | cons c cs ih =>
    obtain ⟨hSlash, hFreeTail⟩ := not_or.mp (mt List.mem_cons.mpr hFree)
    cases ds with
    | nil =>
      cases others with
      | nil => simp [afterSlash, clashes]
      | cons other others => simp [afterSlash, clashes, Ne.symm hSlash]
    | cons d ds =>
      obtain ⟨-, hOtherTail⟩ := not_or.mp (mt List.mem_cons.mpr hOtherFree)
      by_cases hSame : c = d
      · subst hSame
        simpa [clashes] using ih (fun h => hNe (h ▸ rfl)) hFreeTail hOtherTail
      · simp [clashes, hSame]

/-- A mark does not clash with plain text, whatever follows. -/
theorem clashes_mark_plain_eq_false (part : Part) (hMark : ∀ c, part ≠ .literal c)
    (pattern : Pattern) (cs : List Char) (others : List String) :
    clashes (part :: pattern) (cs.map .literal ++ afterSlash others) = false ∧
      clashes (cs.map .literal ++ afterSlash others) (part :: pattern) = false := by
  have hHead : cs.map .literal ++ afterSlash others = [] ∨
      ∃ c rest, cs.map .literal ++ afterSlash others = .literal c :: rest := by
    cases cs with
    | nil =>
      cases others with
      | nil => exact Or.inl rfl
      | cons other others => exact Or.inr ⟨_, _, rfl⟩
    | cons c cs => exact Or.inr ⟨_, _, rfl⟩
  rcases hHead with hNil | ⟨c, rest, hCons⟩
  · rw [hNil]
    cases part <;> exact ⟨rfl, rfl⟩
  · rw [hCons]
    cases part with
    | literal d => exact absurd rfl (hMark d)
    | param => exact ⟨by simp [clashes], by simp [clashes]⟩
    | rest => exact ⟨by simp [clashes], by simp [clashes]⟩

/-- Different segments clash exactly if they are marks, whatever follows them. -/
theorem clashes_of_ne {shape other : String} (hShape : IsShape shape) (hOther : IsShape other)
    (hNe : shape ≠ other) (shapes others : List String) :
    clashes (ofSegment shape ++ afterSlash shapes) (ofSegment other ++ afterSlash others) = true ↔
      (shape = ":" ∧ other = "*" ∨ shape = "*" ∧ other = ":") := by
  have hColon : ofSegment ":" = [.param] := rfl
  have hStar : ofSegment "*" = [.rest] := rfl
  cases hShape with
  | colon =>
    cases hOther with
    | colon => exact absurd rfl hNe
    | star => exact iff_of_true rfl (Or.inl ⟨rfl, rfl⟩)
    | plain hPlain =>
      rw [hColon, ofSegment_plain hPlain]
      have hFalse := clashes_mark_plain_eq_false .param nofun (afterSlash shapes)
        other.toList others
      simp [hFalse.1, hPlain.ne_mark.2]
  | star =>
    cases hOther with
    | colon => exact iff_of_true rfl (Or.inr ⟨rfl, rfl⟩)
    | star => exact absurd rfl hNe
    | plain hPlain =>
      rw [hStar, ofSegment_plain hPlain]
      have hFalse := clashes_mark_plain_eq_false .rest nofun (afterSlash shapes)
        other.toList others
      simp [hFalse.1, hPlain.ne_mark.1]
  | plain hPlain =>
    rw [ofSegment_plain hPlain]
    cases hOther with
    | colon =>
      have hFalse := clashes_mark_plain_eq_false .param nofun (afterSlash others)
        shape.toList shapes
      simp [hColon, hFalse.2, hPlain.ne_mark.2]
    | star =>
      have hFalse := clashes_mark_plain_eq_false .rest nofun (afterSlash others)
        shape.toList shapes
      simp [hStar, hFalse.2, hPlain.ne_mark.1]
    | plain hOtherPlain =>
      have hChars : shape.toList ≠ other.toList := fun h => hNe (String.toList_inj.mp h)
      rw [ofSegment_plain hOtherPlain, clashes_plain_eq_false hChars hPlain.slash_not_mem
        hOtherPlain.slash_not_mem]
      simp [hPlain.ne_mark]

/-- Behind the same segment, patterns clash if both end there, or if both go on and clash there. -/
theorem clashes_afterSlash_iff (shapes others : List String) :
    clashes (afterSlash shapes) (afterSlash others) = true ↔
      (shapes = [] ∧ others = []) ∨
        (shapes ≠ [] ∧ others ≠ [] ∧ clashes (ofShapes shapes) (ofShapes others) = true) := by
  cases shapes with
  | nil =>
    cases others with
    | nil => simp [afterSlash, clashes]
    | cons other others => simp [afterSlash, clashes]
  | cons shape shapes =>
    cases others with
    | nil => simp [afterSlash, clashes]
    | cons other others => simp [afterSlash, clashes]

/-- Patterns of shapes clash exactly if the shapes are one or differ by the kind of a mark first. -/
theorem clashes_ofShapes_iff {shapes others : List String} (hShapes : ∀ s ∈ shapes, IsShape s)
    (hOthers : ∀ s ∈ others, IsShape s) (hStars : StarsLast shapes) (hOtherStars : StarsLast others)
    (hNe : shapes ≠ []) (hOtherNe : others ≠ []) :
    clashes (ofShapes shapes) (ofShapes others) = true ↔
      shapes = others ∨ MixesKinds shapes others := by
  -- Segments that are alike cancel, and the first ones that differ decide.
  induction shapes generalizing others with
  | nil => exact absurd rfl hNe
  | cons shape shapes ih =>
    cases others with
    | nil => exact absurd rfl hOtherNe
    | cons other others =>
      rw [ofShapes_cons, ofShapes_cons, mixesKinds_cons_iff, List.cons.injEq]
      by_cases hSame : shape = other
      · subst hSame
        have hNoMix : ¬(shape = ":" ∧ shape = "*" ∨ shape = "*" ∧ shape = ":") := by
          rintro (⟨rfl, h⟩ | ⟨rfl, h⟩)
          · exact absurd h (by decide)
          · exact absurd h (by decide)
        by_cases hStar : shape = "*"
        · subst hStar
          obtain rfl : shapes = [] := by simpa using hStars 0 rfl
          obtain rfl : others = [] := by simpa using hOtherStars 0 rfl
          exact iff_of_true rfl (Or.inl ⟨rfl, rfl⟩)
        · rw [clashes_append_left (mt rest_mem_ofSegment_iff.mp hStar), clashes_afterSlash_iff]
          simp only [hNoMix, true_and, false_or]
          by_cases hNil : shapes = []
          · subst hNil
            cases others with
            | nil => simp
            | cons other others => simp [not_mixesKinds_nil]
          by_cases hOtherNil : others = []
          · subst hOtherNil
            have hNone : ¬MixesKinds shapes [] := fun h => not_mixesKinds_nil _ h.symm
            simp [hNil, hNone]
          · have hClash := ih (fun s h => hShapes s (List.mem_cons_of_mem _ h))
              (fun s h => hOthers s (List.mem_cons_of_mem _ h)) hStars.tail hOtherStars.tail hNil
              hOtherNil
            simp [hNil, hOtherNil, hClash]
      · rw [clashes_of_ne (hShapes _ List.mem_cons_self) (hOthers _ List.mem_cons_self) hSame]
        simp [hSame]

/-! ## Patterns that are tried together -/

theorem exists_ofShapes_eq (shape next : String) (shapes : List String) :
    ∃ before last,
      ofShapes (shape :: next :: shapes) = before ++ .literal '/' :: ofSegment last := by
  induction shapes generalizing shape next with
  | nil => exact ⟨_, _, rfl⟩
  | cons other shapes ih =>
    obtain ⟨before, last, hLast⟩ := ih next other
    exact ⟨ofSegment shape ++ .literal '/' :: before, last, by simp [ofShapes, ← hLast]⟩

/-- A star of a shape stands behind a slash, so it is well placed whatever came before. -/
theorem isAnchored_ofShapes (earlier : List Pattern) (shape next : String) (shapes : List String) :
    isAnchored earlier (ofShapes (shape :: next :: shapes)) = true := by
  obtain ⟨before, last, hLast⟩ := exists_ofShapes_eq shape next shapes
  rw [hLast]
  by_cases hStar : last = "*"
  · subst hStar
    have hPattern : before ++ .literal '/' :: ofSegment "*" =
        (before ++ [.literal '/']) ++ [.rest] := by simp [ofSegment]
    have hBefore : beforeRest? (before ++ .literal '/' :: ofSegment "*") =
        some (before ++ [.literal '/']) := by
      rw [hPattern, beforeRest?, List.getLast?_concat, if_pos rfl, List.dropLast_concat]
    simp [isAnchored, hBefore]
  · have hOther : (before ++ .literal '/' :: ofSegment last).getLast? ≠ some .rest := by
      rw [List.getLast?_append_cons]
      intro hRest
      rcases List.mem_cons.mp (List.mem_of_getLast? hRest) with hSlash | hMem
      · exact nomatch hSlash
      · exact hStar (rest_mem_ofSegment_iff.mp hMem)
    have hNone : beforeRest? (before ++ .literal '/' :: ofSegment last) = none := if_neg hOther
    simp [isAnchored, hNone]

/-- Patterns that are well placed anywhere can be tried together if no two of them clash. -/
theorem allFit_iff {patterns : List Pattern}
    (hAnchored : ∀ pattern ∈ patterns, ∀ earlier, isAnchored earlier pattern = true)
    (earlier : List Pattern) :
    allFit earlier patterns = true ↔
      (∀ pattern ∈ patterns, ∀ other ∈ earlier, clashes pattern other = false) ∧
        patterns.Pairwise fun other pattern => clashes pattern other = false := by
  induction patterns generalizing earlier with
  | nil => simp [allFit]
  | cons pattern patterns ih =>
    have hOwn := hAnchored pattern List.mem_cons_self earlier
    have hRest := ih (fun other h => hAnchored other (List.mem_cons_of_mem _ h))
      (earlier ++ [pattern])
    have hFits : fits earlier pattern = true ↔
        ∀ other ∈ earlier, clashes pattern other = false := by
      simp [fits, hOwn]
    rw [allFit, Bool.and_eq_true, hFits, hRest, List.forall_mem_cons, List.pairwise_cons]
    constructor
    · rintro ⟨hNew, hAll, hPairs⟩
      refine ⟨⟨hNew, fun other hOther before hBefore => ?_⟩, fun other hOther => ?_, hPairs⟩
      · exact hAll other hOther before (List.mem_append_left _ hBefore)
      · exact hAll other hOther pattern (List.mem_append_right _ (List.mem_singleton_self _))
    · rintro ⟨⟨hNew, hAll⟩, hFirst, hPairs⟩
      refine ⟨hNew, fun other hOther before hBefore => ?_, hPairs⟩
      rcases List.mem_append.mp hBefore with hBefore | hBefore
      · exact hAll other hOther before hBefore
      · obtain rfl := List.mem_singleton.mp hBefore
        exact hFirst other hOther

end Pattern
end Http
end Switchboard
