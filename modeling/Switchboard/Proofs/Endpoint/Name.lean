import Switchboard.Proofs.Catalogue.Validity

/-!
# The last segment of a qualified name

A name is qualified by colons and points, and its last segment is found from the end: separators and
blanks behind it do not count, and neither do blanks in front of it.  The segment that is found is a
part of the name as it stands (`lastSegment?_eq_some_iff`), and none is found only where there is
nothing but separators and blanks (`lastSegment?_eq_none_iff`).  It holds no separator, so a text
with a separator in it, or with a blank at one of its ends, is the last segment of no name.
-/

namespace Switchboard
namespace Endpoint

open Catalogue (isNamespaceSeparator)

/-- A text that can be a segment: something is there, without separators and without blanks at its
ends. -/
structure IsSegment (name : String) : Prop where
  nonempty : name ≠ ""
  plain : ∀ c ∈ name.toList, isNamespaceSeparator c = false
  trimmed : Text.trim name = name

/-- What can stand in front of the last segment: blanks alone, or blanks behind a separator. -/
inductive OpensSegment : List Char → Prop
  | start (blanks : List Char) (hBlanks : ∀ c ∈ blanks, Text.isBlank c = true) :
      OpensSegment blanks
  | separated (front : List Char) (sep : Char) (blanks : List Char)
      (hSep : isNamespaceSeparator sep = true) (hBlanks : ∀ c ∈ blanks, Text.isBlank c = true) :
      OpensSegment (front ++ sep :: blanks)

/-- A path ends in a name, but for the separators and blanks that follow it. -/
def EndsIn (path name : String) : Prop :=
  ∃ before after, path.toList = before ++ name.toList ++ after ∧ OpensSegment before ∧
    ∀ c ∈ after, (isNamespaceSeparator c || Text.isBlank c) = true

theorem isNamespaceSeparator_of_isBlank {c : Char} (hBlank : Text.isBlank c = true) :
    isNamespaceSeparator c = false := by
  rw [Bool.eq_false_iff]
  intro hSep
  simp only [isNamespaceSeparator, Bool.or_eq_true, beq_iff_eq] at hSep
  rcases hSep with rfl | rfl
  · exact absurd hBlank (by decide)
  · exact absurd hBlank (by decide)

/-! ### Finding the last segment -/

/-- Behind a separator the segment is looked for first. -/
theorem lastSegment?_append_sep {sep : Char} (hSep : isNamespaceSeparator sep = true)
    (front back : List Char) :
    lastSegment? (String.ofList (front ++ sep :: back)) =
      (lastSegment? (String.ofList back)).or (lastSegment? (String.ofList front)) := by
  have hSplit : Text.split isNamespaceSeparator (front ++ sep :: back) =
      Text.split isNamespaceSeparator front ++ Text.split isNamespaceSeparator back :=
    Text.split_append_sep _ front back sep hSep
  show (Text.pieces isNamespaceSeparator _).reverse.findSome? Text.nonBlank? =
    ((Text.pieces isNamespaceSeparator _).reverse.findSome? Text.nonBlank?).or
      ((Text.pieces isNamespaceSeparator _).reverse.findSome? Text.nonBlank?)
  simp only [Text.pieces, String.toList_ofList, hSplit, List.map_append, List.reverse_append,
    List.findSome?_append]

theorem lastSegment?_of_plain {cs : List Char} (hPlain : ∀ c ∈ cs, isNamespaceSeparator c = false) :
    lastSegment? (String.ofList cs) = Text.nonBlank? (String.ofList cs) := by
  show (Text.pieces isNamespaceSeparator _).reverse.findSome? Text.nonBlank? = _
  rw [Text.pieces, String.toList_ofList, Text.split_eq_singleton _ _ hPlain]
  simp

/-- Separators and blanks at the end of a path do not count. -/
theorem lastSegment?_append_of_idle {after : List Char}
    (hAfter : ∀ c ∈ after, (isNamespaceSeparator c || Text.isBlank c) = true) (cs : List Char) :
    lastSegment? (String.ofList (cs ++ after)) = lastSegment? (String.ofList cs) := by
  have hOne : ∀ (cs : List Char) (c : Char),
      (isNamespaceSeparator c || Text.isBlank c) = true →
        lastSegment? (String.ofList (cs ++ [c])) = lastSegment? (String.ofList cs) := by
    intro cs c hc
    rcases Bool.or_eq_true_iff.mp hc with hSep | hBlank
    · rw [lastSegment?_append_sep hSep]
      rfl
    · have hPlain : ∀ d ∈ [c], isNamespaceSeparator d = false := by
        simpa using isNamespaceSeparator_of_isBlank hBlank
      -- The blank joins the last piece, which is the whole text or stands behind a separator.
      rcases Text.plain_or_exists_last_separator isNamespaceSeparator cs with
        hCs | ⟨front, sep, back, rfl, hSep, hBack⟩
      · rw [lastSegment?_of_plain (List.forall_mem_append.mpr ⟨hCs, hPlain⟩),
          lastSegment?_of_plain hCs, Text.nonBlank?_ofList_append_singleton hBlank]
      · rw [List.append_assoc, List.cons_append, lastSegment?_append_sep hSep,
          lastSegment?_append_sep hSep,
          lastSegment?_of_plain (List.forall_mem_append.mpr ⟨hBack, hPlain⟩),
          lastSegment?_of_plain hBack, Text.nonBlank?_ofList_append_singleton hBlank]
  induction after generalizing cs with
  | nil => rw [List.append_nil]
  | cons c rest ih =>
      obtain ⟨hc, hRest⟩ := List.forall_mem_cons.mp hAfter
      rw [List.append_cons, ih hRest, hOne cs c hc]

theorem lastSegment?_append_of_opens {before : List Char} (hBefore : OpensSegment before)
    {name : String} (hName : IsSegment name) :
    lastSegment? (String.ofList (before ++ name.toList)) = some name := by
  have hNonBlank : Text.nonBlank? (String.ofList name.toList) = some name := by
    rw [String.ofList_toList, Text.nonBlank?_eq_some_iff, hName.trimmed]
    exact ⟨rfl, hName.nonempty⟩
  have hBlanks : ∀ blanks : List Char, (∀ c ∈ blanks, Text.isBlank c = true) →
      lastSegment? (String.ofList (blanks ++ name.toList)) = some name := by
    intro blanks hBlanks
    have hPlain : ∀ c ∈ blanks ++ name.toList, isNamespaceSeparator c = false :=
      List.forall_mem_append.mpr
        ⟨fun c hc => isNamespaceSeparator_of_isBlank (hBlanks c hc), hName.plain⟩
    rw [lastSegment?_of_plain hPlain, Text.nonBlank?_ofList_append_left hBlanks, hNonBlank]
  cases hBefore with
  | start _ h => exact hBlanks _ h
  | separated front sep blanks hSep h =>
      rw [List.append_assoc, List.cons_append, lastSegment?_append_sep hSep, hBlanks blanks h,
        Option.some_or]

/-- A text without separators that is not blank is its own last segment, once it is trimmed. -/
theorem isSegment_of_nonBlank? {cs : List Char} (hPlain : ∀ c ∈ cs, isNamespaceSeparator c = false)
    {name : String} (hName : Text.nonBlank? (String.ofList cs) = some name) : IsSegment name := by
  obtain ⟨rfl, hNe⟩ := (Text.nonBlank?_eq_some_iff _ _).mp hName
  refine ⟨hNe, fun c hc => hPlain c ?_, Text.trim_trim _⟩
  simpa using Text.trim_subset _ hc

theorem isIdle_of_isBlank {back : List Char} (hBack : ∀ c ∈ back, Text.isBlank c = true) :
    ∀ c ∈ back, (isNamespaceSeparator c || Text.isBlank c) = true :=
  fun c hc => by rw [hBack c hc, Bool.or_true]

theorem isIdle_append_sep {front back : List Char} {sep : Char}
    (hFront : ∀ c ∈ front, (isNamespaceSeparator c || Text.isBlank c) = true)
    (hSep : isNamespaceSeparator sep = true) (hBack : ∀ c ∈ back, Text.isBlank c = true) :
    ∀ c ∈ front ++ sep :: back, (isNamespaceSeparator c || Text.isBlank c) = true := by
  have hHere : (isNamespaceSeparator sep || Text.isBlank sep) = true := by
    rw [hSep, Bool.true_or]
  exact List.forall_mem_append.mpr
    ⟨hFront, List.forall_mem_cons.mpr ⟨hHere, isIdle_of_isBlank hBack⟩⟩

theorem exists_of_lastSegment?_eq_some (cs : List Char) {name : String}
    (hName : lastSegment? (String.ofList cs) = some name) :
    IsSegment name ∧ EndsIn (String.ofList cs) name := by
  induction cs using Text.last_separator_induction isNamespaceSeparator with
  | plain cs hCs =>
      rw [lastSegment?_of_plain hCs] at hName
      obtain ⟨before, after, hEq, hBefore, hAfter⟩ := Text.exists_eq_append_of_nonBlank? hName
      refine ⟨isSegment_of_nonBlank? hCs hName, before, after, ?_, .start before hBefore,
        isIdle_of_isBlank hAfter⟩
      rw [String.toList_ofList]
      exact hEq
  | separated front sep back hSep hBack ih =>
      rw [lastSegment?_append_sep hSep, lastSegment?_of_plain hBack] at hName
      cases hLast : Text.nonBlank? (String.ofList back) with
      | some found =>
          rw [hLast, Option.some_or] at hName
          obtain rfl := Option.some.inj hName
          obtain ⟨before, after, hEq, hBefore, hAfter⟩ := Text.exists_eq_append_of_nonBlank? hLast
          refine ⟨isSegment_of_nonBlank? hBack hLast, front ++ sep :: before, after, ?_,
            .separated front sep before hSep hBefore, isIdle_of_isBlank hAfter⟩
          rw [String.toList_ofList, hEq]
          simp
      | none =>
          rw [hLast, Option.none_or] at hName
          obtain ⟨hSegment, before, after, hEq, hBefore, hAfter⟩ := ih hName
          refine ⟨hSegment, before, after ++ sep :: back, ?_, hBefore,
            isIdle_append_sep hAfter hSep (Text.isBlank_of_nonBlank?_eq_none hLast)⟩
          rw [String.toList_ofList] at hEq ⊢
          rw [hEq]
          simp

theorem isIdle_of_lastSegment?_eq_none (cs : List Char)
    (hNone : lastSegment? (String.ofList cs) = none) :
    ∀ c ∈ cs, (isNamespaceSeparator c || Text.isBlank c) = true := by
  induction cs using Text.last_separator_induction isNamespaceSeparator with
  | plain cs hCs =>
      rw [lastSegment?_of_plain hCs] at hNone
      exact isIdle_of_isBlank (Text.isBlank_of_nonBlank?_eq_none hNone)
  | separated front sep back hSep hBack ih =>
      rw [lastSegment?_append_sep hSep, Option.or_eq_none_iff, lastSegment?_of_plain hBack]
        at hNone
      obtain ⟨hBackNone, hFrontNone⟩ := hNone
      exact isIdle_append_sep (ih hFrontNone) hSep (Text.isBlank_of_nonBlank?_eq_none hBackNone)

/-- The last segment of a path is the segment that the path ends in. -/
theorem lastSegment?_eq_some_iff (path name : String) :
    lastSegment? path = some name ↔ IsSegment name ∧ EndsIn path name := by
  constructor
  · intro hName
    have hFound := exists_of_lastSegment?_eq_some path.toList (by rwa [String.ofList_toList])
    rwa [String.ofList_toList] at hFound
  · intro hFound
    obtain ⟨hSegment, before, after, hEq, hBefore, hAfter⟩ := hFound
    rw [← String.ofList_toList (s := path), hEq, lastSegment?_append_of_idle hAfter,
      lastSegment?_append_of_opens hBefore hSegment]

/-- There is no last segment exactly where there is nothing but separators and blanks. -/
theorem lastSegment?_eq_none_iff (path : String) :
    lastSegment? path = none ↔
      ∀ c ∈ path.toList, (isNamespaceSeparator c || Text.isBlank c) = true := by
  constructor
  · intro hNone
    exact isIdle_of_lastSegment?_eq_none path.toList (by rwa [String.ofList_toList])
  · intro hIdle
    have hNone := lastSegment?_append_of_idle hIdle []
    rw [List.nil_append, String.ofList_toList] at hNone
    exact hNone

/-! ### Segments and what they are put behind -/

theorem IsSegment.isTrimmed {name : String} (hName : IsSegment name) :
    Text.IsTrimmed Text.isBlank name.toList := by
  have hSame : Text.trimWhile Text.isBlank name.toList = name.toList := by
    simpa [Text.trim, Text.trimBy] using congrArg String.toList hName.trimmed
  rw [← hSame]
  exact Text.isTrimmed_trimWhile _ _

theorem IsSegment.lastSegment?_self {name : String} (hName : IsSegment name) :
    lastSegment? name = some name := by
  have hAlone := lastSegment?_append_of_opens (.start [] (by simp)) hName
  rwa [List.nil_append, String.ofList_toList] at hAlone

/-- Whatever stands in front of the last separator, the name behind it is found. -/
theorem lastSegment?_append_sep_name {sep : Char} (hSep : isNamespaceSeparator sep = true)
    (front : List Char) {name : String}
    (hPlain : ∀ c ∈ name.toList, isNamespaceSeparator c = false)
    (hSolid : ∃ c ∈ name.toList, Text.isBlank c = false) :
    lastSegment? (String.ofList (front ++ sep :: name.toList)) = some (Text.trim name) := by
  have hNe : Text.trim name ≠ "" := by
    intro hEmpty
    obtain ⟨c, hc, hNotBlank⟩ := hSolid
    rw [(Text.trim_eq_empty_iff name).mp hEmpty c hc] at hNotBlank
    cases hNotBlank
  have hFound : Text.nonBlank? name = some (Text.trim name) :=
    (Text.nonBlank?_eq_some_iff name _).mpr ⟨rfl, hNe⟩
  rw [lastSegment?_append_sep hSep, lastSegment?_of_plain hPlain, String.ofList_toList, hFound,
    Option.some_or]

/-- **The last segment of a path.**  A path has none exactly if it is made of separators and blanks;
else it is the one segment that the path ends in, it is trimmed, and it is its own last segment.  A
name without separators that is not blank is found, trimmed, behind any path with a double colon or
a point between the two. -/
theorem last_segment_is_exact (path : String) :
    (lastSegment? path = none ↔
        ∀ c ∈ path.toList, (isNamespaceSeparator c || Text.isBlank c) = true) ∧
      (∀ name, lastSegment? path = some name ↔ IsSegment name ∧ EndsIn path name) ∧
      (∀ name, lastSegment? path = some name →
        Text.IsTrimmed Text.isBlank name.toList ∧ lastSegment? name = some name) ∧
      ∀ name : String, (∀ c ∈ name.toList, isNamespaceSeparator c = false) →
        (∃ c ∈ name.toList, Text.isBlank c = false) →
          lastSegment? (path ++ "::" ++ name) = some (Text.trim name) ∧
            lastSegment? (path ++ "." ++ name) = some (Text.trim name) := by
  refine ⟨lastSegment?_eq_none_iff path, lastSegment?_eq_some_iff path, ?_, ?_⟩
  · intro name hName
    have hSegment := ((lastSegment?_eq_some_iff path name).mp hName).1
    exact ⟨hSegment.isTrimmed, hSegment.lastSegment?_self⟩
  · intro name hPlain hSolid
    -- Of the two colons the second one is the last separator.
    have hColons : path ++ "::" ++ name =
        String.ofList ((path.toList ++ [':']) ++ ':' :: name.toList) := by
      rw [← String.toList_inj]
      simp
    have hPoint : path ++ "." ++ name = String.ofList (path.toList ++ '.' :: name.toList) := by
      rw [← String.toList_inj]
      simp
    rw [hColons, hPoint]
    exact ⟨lastSegment?_append_sep_name rfl _ hPlain hSolid,
      lastSegment?_append_sep_name rfl _ hPlain hSolid⟩

/-- A path with doubled separators and blanks behind its last segment, and a name with blanks at its
ends put behind it. -/
theorem sample_last_segment :
    lastSegment? "app::.Orders\t:: . " = some "Orders" ∧
      (Text.IsTrimmed Text.isBlank "Orders".toList ∧ lastSegment? "Orders" = some "Orders") ∧
      (∀ c ∈ " Open Lines\n".toList, isNamespaceSeparator c = false) ∧
      (∃ c ∈ " Open Lines\n".toList, Text.isBlank c = false) ∧
      lastSegment? "app::.Orders\t:: . :: Open Lines\n" = some "Open Lines" ∧
      lastSegment? "app::.Orders\t:: . . Open Lines\n" = some "Open Lines" := by
  have hOrders : lastSegment? "app::.Orders\t:: . " = some "Orders" := by decide +kernel
  have hAll : " Open Lines\n".toList.all (!isNamespaceSeparator ·) = true := by decide +kernel
  have hAny : " Open Lines\n".toList.any (!Text.isBlank ·) = true := by decide +kernel
  have hPlain : ∀ c ∈ " Open Lines\n".toList, isNamespaceSeparator c = false :=
    fun c hc => (Bool.not_eq_true' _).mp (List.all_eq_true.mp hAll c hc)
  have hSolid : ∃ c ∈ " Open Lines\n".toList, Text.isBlank c = false := by
    obtain ⟨c, hc, hNotBlank⟩ := List.any_eq_true.mp hAny
    exact ⟨c, hc, (Bool.not_eq_true' _).mp hNotBlank⟩
  obtain ⟨-, -, hOwn, hBehind⟩ := last_segment_is_exact "app::.Orders\t:: . "
  obtain ⟨hColons, hPoint⟩ := hBehind " Open Lines\n" hPlain hSolid
  exact ⟨hOrders, hOwn "Orders" hOrders, hPlain, hSolid, hColons, hPoint⟩

end Endpoint
end Switchboard
