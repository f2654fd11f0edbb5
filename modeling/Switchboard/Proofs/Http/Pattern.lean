import Mathlib.Data.List.Basic
import Switchboard.Http.Pattern
import Switchboard.Proofs.Text.Pieces

/-!
# Patterns segment by segment

A pattern is read character by character, but a mark and its name never reach past a slash, so a
pattern is one for each segment of its text with slashes between them (`read?_append_slash`), and it
matches a path segment by segment (`Pattern.fits_of_matchesPath`).  Only the last segment may take
more than one segment of the path.
-/

namespace Switchboard
namespace Http

theorem takeWhile_ne_append_slash {cs : List Char} (hFree : '/' ∉ cs) (rest : List Char) :
    (cs ++ '/' :: rest).takeWhile (· != '/') = cs := by
  have hOther : ∀ c ∈ cs, (c != '/') = true := fun c hc => bne_iff_ne.mpr fun h => hFree (h ▸ hc)
  rw [List.takeWhile_append_of_pos hOther]
  simp

theorem takeWhile_ne_slash {cs : List Char} (hFree : '/' ∉ cs) :
    cs.takeWhile (· != '/') = cs :=
  List.takeWhile_eq_self_iff.mpr fun _ hc => bne_iff_ne.mpr fun h => hFree (h ▸ hc)

namespace Pattern

theorem read?_plain {c : Char} (hPlain : isMark c = false) (rest : List Char) :
    read? (c :: rest) = (read? rest).map (.literal c :: ·) := by
  rw [read?, if_neg (by simp [hPlain])]

theorem read?_of_forall_isMark_eq_false {cs : List Char}
    (hPlain : ∀ c ∈ cs, isMark c = false) : read? cs = some (cs.map .literal) := by
  induction cs with
  | nil => rw [read?, List.map_nil]
  | cons c cs ih =>
    rw [read?_plain (hPlain c List.mem_cons_self),
      ih fun d hd => hPlain d (List.mem_cons_of_mem _ hd)]
    rfl

/-- A mark in a text without slashes names all that follows it. -/
theorem read?_mark {c : Char} (hMark : isMark c = true) {name : List Char} (hFree : '/' ∉ name) :
    read? (c :: name) =
      if name.isEmpty || name.any isMark then none
      else some [if c == '*' then .rest else .param] := by
  rw [read?, if_pos hMark]
  simp only [takeWhile_ne_slash hFree, beq_self_eq_true, if_true, List.drop_length]
  split_ifs
  · rfl
  · rfl
  · rw [read?]
    rfl

/-- A mark before a slash names what stands between, and a star must not stand there. -/
theorem read?_mark_append_slash {c : Char} (hMark : isMark c = true) {name : List Char}
    (hFree : '/' ∉ name) (rest : List Char) :
    read? (c :: (name ++ '/' :: rest)) =
      if name.isEmpty || name.any isMark || c == '*' then none
      else (read? rest).map fun pattern => .param :: .literal '/' :: pattern := by
  have hLength : (name.length == (name ++ '/' :: rest).length) = false := by simp
  rw [read?, if_pos hMark]
  simp only [takeWhile_ne_append_slash hFree, hLength, List.drop_left]
  by_cases hName : (name.isEmpty || name.any isMark) = true
  · simp [hName]
  · by_cases hStar : (c == '*') = true
    · simp [hName, hStar]
    · rw [if_neg hName, if_neg hStar, if_neg (by simp [hName, hStar]), read?_plain (by decide),
        Option.map_map]
      rfl

/-- A segment before a slash is read alone; it must not take what follows the slash. -/
theorem read?_append_slash {segment : List Char} (hFree : '/' ∉ segment) (rest : List Char) :
    read? (segment ++ '/' :: rest) =
      (read? segment).bind fun first =>
        if .rest ∈ first then none
        else (read? rest).map fun pattern => first ++ .literal '/' :: pattern := by
  induction segment with
  | nil =>
    have hEmpty : read? [] = some [] := by rw [read?]
    rw [List.nil_append, read?_plain (by decide), hEmpty]
    rfl
  | cons c segment ih =>
    obtain ⟨-, hSegment⟩ := not_or.mp (mt List.mem_cons.mpr hFree)
    rw [List.cons_append]
    by_cases hMark : isMark c = true
    · rw [read?_mark_append_slash hMark hSegment, read?_mark hMark hSegment]
      by_cases hName : (segment.isEmpty || segment.any isMark) = true
      · simp [hName]
      · by_cases hStar : (c == '*') = true
        · simp [hName, hStar]
        · simp [hName, hStar]
    · have hPlain : isMark c = false := by simpa using hMark
      rw [read?_plain hPlain, read?_plain hPlain, ih hSegment]
      cases read? segment with
      | none => rfl
      | some first =>
        by_cases hRest : Part.rest ∈ first
        · simp [hRest]
        · cases read? rest with
          | none => simp
          | some pattern => simp [hRest]

/-- Where segments are read together, each of them can be read. -/
theorem exists_read?_of_mem {template : List (List Char)} (hFree : ∀ part ∈ template, '/' ∉ part)
    {pattern : Pattern} (hRead : read? (Text.join '/' template) = some pattern) {part : List Char}
    (hPart : part ∈ template) : ∃ own, read? part = some own := by
  induction template generalizing pattern with
  | nil => exact nomatch hPart
  | cons first template ih =>
    cases template with
    | nil =>
      obtain rfl := List.mem_singleton.mp hPart
      exact ⟨pattern, hRead⟩
    | cons next more =>
      rw [Text.join, read?_append_slash (hFree first List.mem_cons_self)] at hRead
      obtain ⟨own, hFirst, hRead⟩ := Option.bind_eq_some_iff.mp hRead
      by_cases hRest : Part.rest ∈ own
      · simp [hRest] at hRead
      · rw [if_neg hRest] at hRead
        obtain ⟨rest, hOthers, -⟩ := Option.map_eq_some_iff.mp hRead
        rcases List.mem_cons.mp hPart with rfl | hLater
        · exact ⟨own, hFirst⟩
        · exact ih (fun _ h => hFree _ (List.mem_cons_of_mem _ h)) hOthers hLater

/-- The pattern of a segment holds no slash. -/
theorem slash_not_mem_of_read? {segment : List Char} (hFree : '/' ∉ segment) {pattern : Pattern}
    (hRead : read? segment = some pattern) : .literal '/' ∉ pattern := by
  induction segment generalizing pattern with
  | nil =>
    rw [read?] at hRead
    obtain rfl := Option.some.inj hRead
    exact List.not_mem_nil
  | cons c segment ih =>
    obtain ⟨hNe, hSegment⟩ := not_or.mp (mt List.mem_cons.mpr hFree)
    by_cases hMark : isMark c = true
    · rw [read?_mark hMark hSegment] at hRead
      split_ifs at hRead
      all_goals
        obtain rfl := Option.some.inj hRead
        simp
    · rw [read?_plain (by simpa using hMark)] at hRead
      obtain ⟨rest, hRest, rfl⟩ := Option.map_eq_some_iff.mp hRead
      simp [hNe, ih hSegment hRest]

/-- A pattern of one segment before a slash takes what stands before the first slash of the path. -/
theorem matchesPath_append_slash {first : Pattern} (hSlash : .literal '/' ∉ first)
    (hRest : .rest ∉ first) (pattern : Pattern) {segment : List Char} (hFree : '/' ∉ segment)
    (path : List Char) :
    matchesPath (first ++ .literal '/' :: pattern) (segment ++ '/' :: path) =
      (matchesPath first segment && matchesPath pattern path) := by
  induction first generalizing segment with
  | nil =>
    cases segment with
    | nil => simp [matchesPath]
    | cons d segment =>
      obtain ⟨hNe, -⟩ := not_or.mp (mt List.mem_cons.mpr hFree)
      simp [matchesPath, hNe]
  | cons part first ih =>
    obtain ⟨hPart, hSlashFirst⟩ := not_or.mp (mt List.mem_cons.mpr hSlash)
    obtain ⟨hPartRest, hRestFirst⟩ := not_or.mp (mt List.mem_cons.mpr hRest)
    cases part with
    | literal c =>
      cases segment with
      | nil =>
        have hNe : c ≠ '/' := fun h => hPart (h ▸ rfl)
        simp [matchesPath, hNe]
      | cons d segment =>
        obtain ⟨-, hSegment⟩ := not_or.mp (mt List.mem_cons.mpr hFree)
        simp [matchesPath, ih hSlashFirst hRestFirst hSegment, Bool.and_assoc]
    | param =>
      -- The parameter takes all that is left of the segment, with the slash behind it or not.
      rw [List.cons_append, matchesPath, matchesPath, takeWhile_ne_append_slash hFree,
        takeWhile_ne_slash hFree]
      cases segment with
      | nil => rfl
      | cons d segment =>
        have hNone : '/' ∉ ([] : List Char) := List.not_mem_nil
        have hNext := ih hSlashFirst hRestFirst hNone
        simpa [List.drop_left] using hNext
    | rest => exact absurd rfl hPartRest

/-- A pattern that goes on after a slash does not match a path without one. -/
theorem matchesPath_append_slash_of_free {first : Pattern} (hRest : .rest ∉ first)
    (pattern : Pattern) {path : List Char} (hFree : '/' ∉ path) :
    matchesPath (first ++ .literal '/' :: pattern) path = false := by
  induction first generalizing path with
  | nil =>
    cases path with
    | nil => rfl
    | cons d path =>
      obtain ⟨hNe, -⟩ := not_or.mp (mt List.mem_cons.mpr hFree)
      simp [matchesPath, hNe]
  | cons part first ih =>
    obtain ⟨hPartRest, hRestFirst⟩ := not_or.mp (mt List.mem_cons.mpr hRest)
    cases part with
    | literal c =>
      cases path with
      | nil => rfl
      | cons d path =>
        obtain ⟨-, hPath⟩ := not_or.mp (mt List.mem_cons.mpr hFree)
        simp [matchesPath, ih hRestFirst hPath]
    | param =>
      rw [List.cons_append, matchesPath, takeWhile_ne_slash hFree]
      cases path with
      | nil => rfl
      | cons d path =>
        have hNone : '/' ∉ ([] : List Char) := List.not_mem_nil
        have hNext := ih hRestFirst hNone
        simpa using hNext
    | rest => exact absurd rfl hPartRest

/-- A pattern of one segment matches no path with a slash, unless it takes all that is left. -/
theorem slash_not_mem_of_matchesPath {pattern : Pattern} (hSlash : .literal '/' ∉ pattern)
    (hRest : .rest ∉ pattern) {path : List Char} (hMatches : pattern.matchesPath path = true) :
    '/' ∉ path := by
  induction pattern generalizing path with
  | nil =>
    obtain rfl : path = [] := List.isEmpty_iff.mp hMatches
    exact List.not_mem_nil
  | cons part pattern ih =>
    obtain ⟨hPart, hSlashPattern⟩ := not_or.mp (mt List.mem_cons.mpr hSlash)
    obtain ⟨hPartRest, hRestPattern⟩ := not_or.mp (mt List.mem_cons.mpr hRest)
    cases part with
    | literal c =>
      cases path with
      | nil => exact List.not_mem_nil
      | cons d path =>
        simp only [matchesPath, Bool.and_eq_true, beq_iff_eq] at hMatches
        obtain ⟨rfl, hPath⟩ := hMatches
        intro hMem
        rcases List.mem_cons.mp hMem with rfl | hMem
        · exact hPart rfl
        · exact ih hSlashPattern hRestPattern hPath hMem
    | param =>
      -- A slash of the path would be in what the parameter takes, or behind it.
      have hSplit := List.takeWhile_append_dropWhile (p := (· != '/')) (l := path)
      have hDrop : path.drop (path.takeWhile (· != '/')).length = path.dropWhile (· != '/') := by
        have hSame := congrArg (List.drop (path.takeWhile (· != '/')).length) hSplit
        rw [List.drop_left] at hSame
        exact hSame.symm
      have hLeft : matchesPath pattern (path.dropWhile (· != '/')) = true := by
        rw [← hDrop]
        rw [matchesPath] at hMatches
        split at hMatches
        · exact nomatch hMatches
        · exact hMatches
      intro hMem
      rw [← hSplit] at hMem
      rcases List.mem_append.mp hMem with hTaken | hMem
      · simpa using List.mem_takeWhile_imp hTaken
      · exact ih hSlashPattern hRestPattern hLeft hMem
    | rest => exact absurd rfl hPartRest

/-- The segments of a path that the segments of a template match: each one the segment in its place,
and the last one all that are left if it takes them. -/
inductive Fits : List (List Char) → List (List Char) → Prop
  | last {part : List Char} {segments : List (List Char)} {pattern : Pattern}
      (hPattern : read? part = some pattern)
      (hMatches : pattern.matchesPath (Text.join '/' segments) = true) (hNe : segments ≠ [])
      (hOne : .rest ∈ pattern ∨ segments.length = 1) : Fits [part] segments
  | next {part segment : List Char} {template segments : List (List Char)} {pattern : Pattern}
      (hPattern : read? part = some pattern) (hRest : .rest ∉ pattern)
      (hMatches : pattern.matchesPath segment = true) (hOthers : Fits template segments) :
      Fits (part :: template) (segment :: segments)

/-- A pattern that matches a path does so segment by segment. -/
theorem fits_of_matchesPath {template : List (List Char)} (hTemplate : template ≠ [])
    (hFree : ∀ part ∈ template, '/' ∉ part) {pattern : Pattern}
    (hRead : read? (Text.join '/' template) = some pattern) {segments : List (List Char)}
    (hNe : segments ≠ []) (hSegments : ∀ segment ∈ segments, '/' ∉ segment)
    (hMatches : pattern.matchesPath (Text.join '/' segments) = true) : Fits template segments := by
  induction template generalizing pattern segments with
  | nil => exact absurd rfl hTemplate
  | cons part template ih =>
    have hPart : '/' ∉ part := hFree part List.mem_cons_self
    cases template with
    | nil =>
      refine .last hRead hMatches hNe ?_
      by_cases hRest : Part.rest ∈ pattern
      · exact Or.inl hRest
      · have hWhole := slash_not_mem_of_matchesPath (slash_not_mem_of_read? hPart hRead) hRest
          hMatches
        cases segments with
        | nil => exact absurd rfl hNe
        | cons segment segments =>
          cases segments with
          | nil => exact Or.inr rfl
          | cons next more => exact absurd (by simp [Text.join]) hWhole
    | cons next more =>
      rw [Text.join, read?_append_slash hPart] at hRead
      obtain ⟨first, hFirst, hRead⟩ := Option.bind_eq_some_iff.mp hRead
      by_cases hRest : Part.rest ∈ first
      · simp [hRest] at hRead
      · rw [if_neg hRest] at hRead
        obtain ⟨rest, hOthers, rfl⟩ := Option.map_eq_some_iff.mp hRead
        cases segments with
        | nil => exact absurd rfl hNe
        | cons segment segments =>
          -- The template goes on after a slash, so the path has one, too.
          have hSegment : '/' ∉ segment := hSegments segment List.mem_cons_self
          cases segments with
          | nil =>
            rw [Text.join, matchesPath_append_slash_of_free hRest rest hSegment] at hMatches
            exact absurd hMatches (by decide)
          | cons other others =>
            rw [Text.join, matchesPath_append_slash (slash_not_mem_of_read? hPart hFirst) hRest
              rest hSegment, Bool.and_eq_true] at hMatches
            exact .next hFirst hRest hMatches.1 (ih (by simp)
              (fun _ h => hFree _ (List.mem_cons_of_mem _ h)) hOthers (by simp)
              (fun _ h => hSegments _ (List.mem_cons_of_mem _ h)) hMatches.2)

theorem Fits.length_le {template segments : List (List Char)} (hFits : Fits template segments) :
    template.length ≤ segments.length := by
  induction hFits with
  | last _ _ hNe _ =>
    have hPos := List.length_pos_of_ne_nil hNe
    simp only [List.length_singleton]
    omega
  | next _ _ _ _ ih =>
    simp only [List.length_cons]
    omega

/-- A name after a mark is read as the part that the mark stands for. -/
theorem eq_of_read?_mark {c : Char} (hMark : isMark c = true) {name : List Char}
    (hFree : '/' ∉ name) {pattern : Pattern} (hRead : read? (c :: name) = some pattern) :
    pattern = [if c == '*' then .rest else .param] := by
  rw [read?_mark hMark hFree] at hRead
  split at hRead
  · exact nomatch hRead
  · exact (Option.some.inj hRead).symm

/-- Only the last segment of a template is a star. -/
theorem Fits.star_last {template segments : List (List Char)} (hFits : Fits template segments)
    (hFree : ∀ part ∈ template, '/' ∉ part) {index : Nat} {name : List Char}
    (hPart : template[index]? = some ('*' :: name)) : index + 1 = template.length := by
  induction hFits generalizing index with
  | last =>
    have hIndex := (List.getElem?_eq_some_iff.mp hPart).1
    simp only [List.length_singleton] at hIndex ⊢
    omega
  | next hPattern hRest hMatches hOthers ih =>
    cases index with
    | zero =>
      obtain rfl := Option.some.inj hPart
      have hName := not_or.mp (mt List.mem_cons.mpr (hFree _ List.mem_cons_self))
      have hStar := eq_of_read?_mark (by decide) hName.2 hPattern
      exact absurd (by simp [hStar]) hRest
    | succ index =>
      have hLast := ih (fun _ h => hFree _ (List.mem_cons_of_mem _ h)) hPart
      simp only [List.length_cons]
      omega

end Pattern
end Http
end Switchboard
