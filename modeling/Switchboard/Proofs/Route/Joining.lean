import Switchboard.Proofs.Route.Shape

/-!
# Paths that are joined from parts

A joined path is a slash and then the segments of its parts, without the empty parts and without
slashes at the ends of a part (`bodySegments`).  The root path, which has none of these, is the one
exception: it still has an empty segment after its slash.  Since no trimmed part begins with a slash,
no other joined path has that segment, and so a joined path is told by these segments
(`joined_eq_iff`).  Joining a joined path below a part, and comparing the shapes of two paths below
the same part, are read off from them.
-/

namespace Switchboard
namespace Route

/-- The parts of a path that do not vanish, without the slashes at their ends. -/
def trimmedParts (parts : List String) : List String :=
  (parts.map (Text.trimBy (· == '/'))).filter (!·.isEmpty)

/-- The segments of a joined path behind its first slash; the root path has none. -/
def bodySegments (parts : List String) : List String :=
  (trimmedParts parts).flatMap segments

/-- What stands behind the first slash of a path with the given segments. -/
def rooted (body : List String) : List String :=
  if body = [] then [""] else body

theorem rooted_ne_nil (body : List String) : rooted body ≠ [] := by
  unfold rooted
  split_ifs with hNil
  · simp
  · exact hNil

/-- All parameters of a path have names. -/
def IsNamed (path : String) : Prop :=
  ∀ segment ∈ segments path, ∀ parameter, parameter? segment = some parameter →
    parameter.name ≠ ""

instance (path : String) : Decidable (IsNamed path) :=
  inferInstanceAs (Decidable
    (∀ segment ∈ segments path, ∀ parameter ∈ parameter? segment, parameter.name ≠ ""))

/-! ### Trimmed parts -/

theorem joined_eq (parts : List String) : joined parts = "/" ++ Text.glue '/' (trimmedParts parts) :=
  rfl

theorem trimmedParts_append (parts others : List String) :
    trimmedParts (parts ++ others) = trimmedParts parts ++ trimmedParts others := by
  rw [trimmedParts, List.map_append, List.filter_append]
  rfl

theorem bodySegments_append (parts others : List String) :
    bodySegments (parts ++ others) = bodySegments parts ++ bodySegments others := by
  rw [bodySegments, trimmedParts_append, List.flatMap_append]
  rfl

theorem bodySegments_cons (part : String) (parts : List String) :
    bodySegments (part :: parts) = bodySegments [part] ++ bodySegments parts :=
  bodySegments_append [part] parts

theorem of_mem_trimmedParts {parts : List String} {part : String}
    (hPart : part ∈ trimmedParts parts) :
    part.toList ≠ [] ∧ Text.IsTrimmed (· == '/') part.toList := by
  obtain ⟨hMem, hNe⟩ := List.mem_filter.mp hPart
  obtain ⟨whole, -, rfl⟩ := List.mem_map.mp hMem
  constructor
  · simpa using hNe
  · rw [Text.trimBy, String.toList_ofList]
    exact Text.isTrimmed_trimWhile _ _

theorem toList_joined (parts : List String) :
    (joined parts).toList = '/' :: Text.join '/' ((trimmedParts parts).map String.toList) := by
  simp [joined_eq, Text.glue]

/-- What stands behind the slash of a joined path has no slash at its ends. -/
theorem isTrimmed_join_trimmedParts (parts : List String) :
    Text.IsTrimmed (· == '/') (Text.join '/' ((trimmedParts parts).map String.toList)) := by
  apply Text.isTrimmed_join
  intro cs hcs
  obtain ⟨part, hPart, rfl⟩ := List.mem_map.mp hcs
  exact of_mem_trimmedParts hPart

/-- The slash of a joined path is all that trimming takes away from it. -/
theorem trimBy_joined (parts : List String) :
    Text.trimBy (· == '/') (joined parts) = Text.glue '/' (trimmedParts parts) := by
  rw [Text.trimBy, toList_joined, Text.trimWhile_cons (by simp),
    Text.trimWhile_eq_self (isTrimmed_join_trimmedParts parts)]
  rfl

theorem glue_trimmedParts_eq_empty_iff (parts : List String) :
    Text.glue '/' (trimmedParts parts) = "" ↔ trimmedParts parts = [] := by
  constructor
  · intro hEmpty
    cases hParts : trimmedParts parts with
    | nil => rfl
    | cons part rest =>
        -- The first part is not empty, and so nothing that is glued from it is.
        have hMem : part ∈ trimmedParts parts := by simp [hParts]
        have hNe := (of_mem_trimmedParts hMem).1
        rw [hParts, ← String.toList_inj, Text.glue, String.toList_ofList] at hEmpty
        cases rest with
        | nil => exact absurd hEmpty hNe
        | cons next more => simp [Text.join] at hEmpty
  · intro hNil
    rw [hNil]
    rfl

theorem trimmedParts_joined {parts : List String} (hNe : trimmedParts parts ≠ []) :
    trimmedParts [joined parts] = [Text.glue '/' (trimmedParts parts)] := by
  have hGlue := mt (glue_trimmedParts_eq_empty_iff parts).mp hNe
  rw [trimmedParts, List.map_singleton, trimBy_joined,
    List.filter_cons_of_pos (by simpa using hGlue)]
  rfl

/-! ### Segments of a joined path -/

/-- A part that does not vanish does not begin with an empty segment. -/
theorem head?_segments_ne {parts : List String} {part : String}
    (hPart : part ∈ trimmedParts parts) : (segments part).head? ≠ some "" := by
  obtain ⟨hNe, hTrimmed⟩ := of_mem_trimmedParts hPart
  obtain ⟨c, rest, hChars⟩ := List.exists_cons_of_ne_nil hNe
  have hFirst : (c == '/') = false := hTrimmed.first c (by rw [hChars]; rfl)
  rw [segments, Text.pieces, hChars, Text.split, if_neg (by simp [hFirst])]
  cases Text.split (· == '/') rest with
  | nil => simp
  | cons piece pieces => simp

theorem head?_bodySegments_ne (parts : List String) : (bodySegments parts).head? ≠ some "" := by
  unfold bodySegments
  cases hParts : trimmedParts parts with
  | nil => simp
  | cons part rest =>
      have hMem : part ∈ trimmedParts parts := by simp [hParts]
      rw [List.flatMap_cons, List.head?_append_of_ne_nil _ (segments_ne_nil part)]
      exact head?_segments_ne hMem

theorem bodySegments_eq_nil_iff (parts : List String) :
    bodySegments parts = [] ↔ trimmedParts parts = [] := by
  rw [bodySegments, List.flatMap_eq_nil_iff]
  constructor
  · intro hNone
    exact List.eq_nil_iff_forall_not_mem.mpr fun part hPart =>
      segments_ne_nil part (hNone part hPart)
  · intro hNil
    simp [hNil]

theorem segments_joined (parts : List String) :
    segments (joined parts) = "" :: rooted (bodySegments parts) := by
  have hJoined : joined parts = Text.glue '/' ["", Text.glue '/' (trimmedParts parts)] := by
    rw [joined_eq, ← String.toList_inj]
    simp [Text.glue, Text.join]
  rw [hJoined, segments, Text.pieces_glue_eq_flatMap '/' (by simp)]
  simp only [List.flatMap_cons, List.flatMap_nil, List.append_nil]
  rw [show Text.pieces (· == '/') "" = [""] from rfl, List.singleton_append, rooted]
  congr 1
  split_ifs with hBody
  · rw [(bodySegments_eq_nil_iff parts).mp hBody]
    rfl
  · exact Text.pieces_glue_eq_flatMap '/' (mt (bodySegments_eq_nil_iff parts).mpr hBody)

/-- Trimming adds no segments to a part. -/
theorem bodySegments_singleton_subset (part : String) : bodySegments [part] ⊆ segments part := by
  intro segment hSegment
  obtain ⟨trimmed, hTrimmed, hMem⟩ := List.mem_flatMap.mp hSegment
  obtain ⟨hTrimmed, -⟩ := List.mem_filter.mp hTrimmed
  obtain rfl := List.mem_singleton.mp hTrimmed
  rw [segments, Text.pieces, Text.trimBy, String.toList_ofList] at hMem
  exact List.map_subset _ (Text.split_trimWhile_subset _ _) hMem

/-! ### Paths are told by their segments -/

theorem glue_segments (path : String) : Text.glue '/' (segments path) = path := by
  rw [segments, Text.pieces, Text.glue, List.map_map]
  simp [Function.comp_def, Text.join_split]

theorem rooted_inj {body other : List String} (hBody : body.head? ≠ some "")
    (hOther : other.head? ≠ some "") : rooted body = rooted other ↔ body = other := by
  unfold rooted
  split_ifs with hNil hOtherNil hOtherNil
  · simp [hNil, hOtherNil]
  · constructor
    · rintro rfl
      simp at hOther
    · intro hEq
      exact absurd (hEq ▸ hNil) hOtherNil
  · constructor
    · rintro rfl
      simp at hBody
    · intro hEq
      exact absurd (hEq.symm ▸ hOtherNil) hNil
  · rfl

theorem joined_eq_glue (parts : List String) :
    joined parts = Text.glue '/' ("" :: rooted (bodySegments parts)) := by
  rw [← segments_joined, glue_segments]

/-- Two lists of parts are joined to one path exactly if their segments are the same. -/
theorem joined_eq_iff (parts others : List String) :
    joined parts = joined others ↔ bodySegments parts = bodySegments others := by
  constructor
  · intro hJoined
    have hSegments : "" :: rooted (bodySegments parts) = "" :: rooted (bodySegments others) := by
      rw [← segments_joined, ← segments_joined, hJoined]
    exact (rooted_inj (head?_bodySegments_ne parts) (head?_bodySegments_ne others)).mp
      (List.cons.inj hSegments).2
  · intro hBody
    rw [joined_eq_glue, hBody, ← joined_eq_glue]

/-- A joined path that is used as a part has the segments of its own parts. -/
theorem bodySegments_joined (parts : List String) :
    bodySegments [joined parts] = bodySegments parts := by
  by_cases hNil : trimmedParts parts = []
  · have hRoot : joined parts = "/" := by
      rw [joined_eq, hNil]
      rfl
    rw [hRoot, (bodySegments_eq_nil_iff parts).mpr hNil]
    decide
  · rw [bodySegments, trimmedParts_joined hNil, List.flatMap_singleton]
    exact Text.pieces_glue_eq_flatMap '/' hNil

/-- A path is joined below another part as its own parts are. -/
theorem joined_joined (part : String) (parts : List String) :
    joined [part, joined parts] = joined (part :: parts) := by
  rw [joined_eq_iff, bodySegments_cons, bodySegments_joined, ← bodySegments_cons]

/-! ### Shapes of joined paths -/

theorem segmentShape_eq_empty_iff (segment : String) : segmentShape segment = "" ↔ segment = "" := by
  cases hParameter : parameter? segment with
  | none => rw [segmentShape_of_eq_none hParameter]
  | some parameter =>
      rw [segmentShape_of_parameter? hParameter]
      constructor
      · cases parameter.catchAll <;> simp
      · rintro rfl
        simp [parameter?, parameterChars, braced?] at hParameter

theorem map_segmentShape_rooted (body : List String) :
    (rooted body).map segmentShape = rooted (body.map segmentShape) := by
  unfold rooted
  split_ifs with hNil hShapes hShapes
  · simp [segmentShape_eq_empty_iff]
  · exact absurd (by simp [hNil]) hShapes
  · exact absurd (List.map_eq_nil_iff.mp hShapes) hNil
  · rfl

theorem shape_joined_eq_iff (parts others : List String) :
    shape (joined parts) = shape (joined others) ↔
      (bodySegments parts).map segmentShape = (bodySegments others).map segmentShape := by
  have hHead : ∀ parts : List String,
      ((bodySegments parts).map segmentShape).head? ≠ some "" := by
    intro parts hSome
    rw [List.head?_map, Option.map_eq_some_iff] at hSome
    obtain ⟨segment, hSegment, hShape⟩ := hSome
    exact head?_bodySegments_ne parts (by rwa [(segmentShape_eq_empty_iff segment).mp hShape]
      at hSegment)
  rw [shape_eq_iff, segments_joined, segments_joined, List.map_cons, List.map_cons,
    map_segmentShape_rooted, map_segmentShape_rooted, List.cons_inj_right,
    rooted_inj (hHead parts) (hHead others)]

/-- A part in front of two paths does not tell them apart, nor does it make them alike. -/
theorem shape_joined_cons_eq_iff (part : String) (parts others : List String) :
    shape (joined (part :: parts)) = shape (joined (part :: others)) ↔
      shape (joined parts) = shape (joined others) := by
  rw [shape_joined_eq_iff, shape_joined_eq_iff, bodySegments_cons, bodySegments_cons part others,
    List.map_append, List.map_append, List.append_cancel_left_eq]

end Route
end Switchboard
