import Switchboard.Route.Path
import Switchboard.Proofs.Text.Pieces

/-!
# Shapes and mounted forms of paths

A path is compared with others in two ways: by its shape, in which the names of parameters are
erased, and by its mounted form, in which they are kept and only their spelling is settled.  Both
work segment by segment, and no segment of either form holds a slash, so both are determined by
their segments.  Equal mounted forms always have equal shapes; the converse needs parameters that
are named alike wherever the paths have the same shape up to them (`NamedAlike`).
-/

namespace Switchboard
namespace Route

theorem braced?_subset {segment inner : List Char} (hInner : braced? segment = some inner) :
    inner ⊆ segment := by
  unfold braced? at hInner
  split at hInner
  · rename_i rest
    by_cases hLast : rest.getLast? = some '\x7d'
    · rw [if_pos hLast] at hInner
      obtain rfl := Option.some.inj hInner
      exact List.Subset.trans (List.dropLast_subset rest) (List.subset_cons_self _ _)
    · simp [hLast] at hInner
  · simp at hInner

theorem bareName_subset (inner : List Char) : bareName inner ⊆ inner :=
  List.Subset.trans (Text.dropEndWhile_subset _ _) (List.takeWhile_sublist _).subset

theorem parameterChars_subset {segment name : List Char} {catchAll : Bool}
    (hSome : parameterChars segment = some (name, catchAll)) : name ⊆ segment := by
  unfold parameterChars at hSome
  split at hSome
  · rename_i inner hInner
    have hBare : bareName inner ⊆ segment :=
      List.Subset.trans (bareName_subset inner) (braced?_subset hInner)
    split at hSome
    · rename_i rest hStar
      obtain ⟨rfl, -⟩ := Prod.mk.inj (Option.some.inj hSome)
      rw [hStar] at hBare
      exact List.Subset.trans (List.subset_cons_self _ _) hBare
    · obtain ⟨rfl, -⟩ := Prod.mk.inj (Option.some.inj hSome)
      exact hBare
  · split at hSome
    · obtain ⟨rfl, -⟩ := Prod.mk.inj (Option.some.inj hSome)
      exact List.subset_cons_self _ _
    · obtain ⟨rfl, -⟩ := Prod.mk.inj (Option.some.inj hSome)
      exact List.subset_cons_self _ _
    · simp at hSome

/-- The name of a parameter is a part of its segment, also after trimming. -/
theorem parameter?_name_subset {segment : String} {parameter : Parameter}
    (hSome : parameter? segment = some parameter) :
    parameter.name.toList ⊆ segment.toList := by
  obtain ⟨⟨name, catchAll⟩, hChars, rfl⟩ := Option.map_eq_some_iff.mp hSome
  refine List.Subset.trans (Text.trim_subset _) ?_
  rw [String.toList_ofList]
  exact parameterChars_subset hChars

theorem parameter?_colon (name : String) :
    parameter? (":" ++ name) = some ⟨Text.trim name, false⟩ := by
  simp [parameter?, parameterChars, braced?]

theorem parameter?_star (name : String) :
    parameter? ("*" ++ name) = some ⟨Text.trim name, true⟩ := by
  simp [parameter?, parameterChars, braced?]

/-- What is not a parameter is none of the texts that start with the mark of one. -/
theorem ne_mark_of_parameter?_eq_none {segment : String} (hNone : parameter? segment = none)
    (name : String) : segment ≠ ":" ++ name ∧ segment ≠ "*" ++ name := by
  constructor
  · rintro rfl
    simp [parameter?_colon] at hNone
  · rintro rfl
    simp [parameter?_star] at hNone

/-! ### Segments -/

theorem mountedSegment_of_parameter? {segment : String} {parameter : Parameter}
    (hSome : parameter? segment = some parameter) :
    mountedSegment segment = (if parameter.catchAll then "*" else ":") ++ parameter.name := by
  obtain ⟨name, catchAll⟩ := parameter
  cases catchAll <;> simp [mountedSegment, hSome]

theorem segmentShape_of_parameter? {segment : String} {parameter : Parameter}
    (hSome : parameter? segment = some parameter) :
    segmentShape segment = if parameter.catchAll then "*" else ":" := by
  obtain ⟨name, catchAll⟩ := parameter
  cases catchAll <;> simp [segmentShape, hSome]

theorem mountedSegment_of_eq_none {segment : String} (hNone : parameter? segment = none) :
    mountedSegment segment = segment := by
  simp [mountedSegment, hNone]

theorem segmentShape_of_eq_none {segment : String} (hNone : parameter? segment = none) :
    segmentShape segment = segment := by
  simp [segmentShape, hNone]

/-- Mounting settles the spelling of a parameter and keeps its mark. -/
@[simp]
theorem segmentShape_mountedSegment (segment : String) :
    segmentShape (mountedSegment segment) = segmentShape segment := by
  cases hParameter : parameter? segment with
  | none => rw [mountedSegment_of_eq_none hParameter]
  | some parameter =>
      rw [mountedSegment_of_parameter? hParameter, segmentShape_of_parameter? hParameter]
      cases parameter.catchAll with
      | false => exact segmentShape_of_parameter? (parameter?_colon _)
      | true => exact segmentShape_of_parameter? (parameter?_star _)

/-- The shape of a parameter is the shape of parameters only. -/
theorem parameter?_eq_none_of_shape_eq {segment other : String}
    (hShape : segmentShape segment = segmentShape other)
    (hNone : parameter? segment = none) : parameter? other = none := by
  cases hOther : parameter? other with
  | none => rfl
  | some parameter =>
      -- The bare mark is itself a parameter, with an empty name.
      exfalso
      have hMark := ne_mark_of_parameter?_eq_none hNone ""
      rw [segmentShape_of_eq_none hNone, segmentShape_of_parameter? hOther] at hShape
      cases hCatch : parameter.catchAll with
      | false => exact hMark.1 (by simpa [hCatch] using hShape)
      | true => exact hMark.2 (by simpa [hCatch] using hShape)

/-- Segments of one shape have one mounted form if their names, where they have names, agree. -/
theorem mountedSegment_eq_of_shape_eq {segment other : String}
    (hShape : segmentShape segment = segmentShape other)
    (hNames : ∀ a b, parameter? segment = some a → parameter? other = some b →
      a.name = b.name) :
    mountedSegment segment = mountedSegment other := by
  cases hSegment : parameter? segment with
  | none =>
      have hOther := parameter?_eq_none_of_shape_eq hShape hSegment
      rw [segmentShape_of_eq_none hSegment, segmentShape_of_eq_none hOther] at hShape
      rw [hShape]
  | some a =>
      cases hOther : parameter? other with
      | none =>
          have hNone := parameter?_eq_none_of_shape_eq hShape.symm hOther
          rw [hSegment] at hNone
          contradiction
      | some b =>
          rw [segmentShape_of_parameter? hSegment, segmentShape_of_parameter? hOther] at hShape
          rw [mountedSegment_of_parameter? hSegment, mountedSegment_of_parameter? hOther,
            hShape, hNames a b hSegment hOther]

theorem slash_not_mem_segmentShape {segment : String} (hFree : '/' ∉ segment.toList) :
    '/' ∉ (segmentShape segment).toList := by
  cases hParameter : parameter? segment with
  | none => rwa [segmentShape_of_eq_none hParameter]
  | some parameter =>
      rw [segmentShape_of_parameter? hParameter]
      cases parameter.catchAll <;> decide

theorem slash_not_mem_mountedSegment {segment : String} (hFree : '/' ∉ segment.toList) :
    '/' ∉ (mountedSegment segment).toList := by
  cases hParameter : parameter? segment with
  | none => rwa [mountedSegment_of_eq_none hParameter]
  | some parameter =>
      have hName : '/' ∉ parameter.name.toList :=
        fun hSlash => hFree (parameter?_name_subset hParameter hSlash)
      rw [mountedSegment_of_parameter? hParameter]
      cases parameter.catchAll <;> simpa using hName

/-! ### Paths -/

theorem segments_ne_nil (path : String) : segments path ≠ [] :=
  Text.pieces_ne_nil _ _

theorem slash_not_mem_of_mem_segments {path segment : String}
    (hSegment : segment ∈ segments path) : '/' ∉ segment.toList :=
  Text.not_mem_of_mem_pieces '/' path hSegment

theorem slash_not_mem_of_mem_shapes {path text : String} {count : Nat}
    (hText : text ∈ ((segments path).take count).map segmentShape) : '/' ∉ text.toList := by
  obtain ⟨segment, hSegment, rfl⟩ := List.mem_map.mp hText
  exact slash_not_mem_segmentShape
    (slash_not_mem_of_mem_segments (List.mem_of_mem_take hSegment))

/-- The segments of a mounted path are the mounted segments. -/
theorem segments_mounted (path : String) :
    segments (mounted path) = (segments path).map mountedSegment := by
  apply Text.pieces_glue '/' _ (by simp [segments_ne_nil])
  intro text hText
  obtain ⟨segment, hSegment, rfl⟩ := List.mem_map.mp hText
  exact slash_not_mem_mountedSegment (slash_not_mem_of_mem_segments hSegment)

theorem segments_shape (path : String) :
    segments (shape path) = (segments path).map segmentShape := by
  apply Text.pieces_glue '/' _ (by simp [segments_ne_nil])
  intro text hText
  obtain ⟨segment, hSegment, rfl⟩ := List.mem_map.mp hText
  exact slash_not_mem_segmentShape (slash_not_mem_of_mem_segments hSegment)

theorem mounted_eq_iff (path other : String) :
    mounted path = mounted other ↔
      (segments path).map mountedSegment = (segments other).map mountedSegment := by
  constructor
  · intro hMounted
    rw [← segments_mounted, ← segments_mounted, hMounted]
  · intro hSegments
    rw [mounted, mounted, hSegments]

theorem shape_eq_iff (path other : String) :
    shape path = shape other ↔
      (segments path).map segmentShape = (segments other).map segmentShape := by
  constructor
  · intro hShape
    rw [← segments_shape, ← segments_shape, hShape]
  · intro hSegments
    rw [shape, shape, hSegments]

/-- Mounting keeps the shape of a path. -/
@[simp]
theorem shape_mounted (path : String) : shape (mounted path) = shape path := by
  rw [shape, segments_mounted, List.map_map, shape]
  congr 1
  exact List.map_congr_left fun segment _ => segmentShape_mountedSegment segment

theorem shape_eq_of_mounted_eq {path other : String} (hMounted : mounted path = mounted other) :
    shape path = shape other := by
  rw [← shape_mounted path, hMounted, shape_mounted]

/-! ### Parameters and what stands before them -/

/-- The parameter that the segment with a number spells, if it spells one. -/
def parameterAt? (path : String) (index : Nat) : Option Parameter :=
  (segments path)[index]?.bind parameter?

/-- A path up to the segment with a number, and with it. -/
def upTo (path : String) (index : Nat) : String :=
  Text.glue '/' ((segments path).take (index + 1))

/-- The shape of a path up to a segment is made of the shapes of the segments up to it. -/
theorem shape_upTo (path : String) (index : Nat) :
    shape (upTo path index) =
      Text.glue '/' (((segments path).take (index + 1)).map segmentShape) := by
  have hSegments : segments (upTo path index) = (segments path).take (index + 1) := by
    apply Text.pieces_glue '/' _ (by simp [segments_ne_nil])
    intro segment hSegment
    exact slash_not_mem_of_mem_segments (List.mem_of_mem_take hSegment)
  rw [shape, hSegments]

theorem shape_upTo_eq_iff (path other : String) (i j : Nat) :
    shape (upTo path i) = shape (upTo other j) ↔
      ((segments path).take (i + 1)).map segmentShape =
        ((segments other).take (j + 1)).map segmentShape := by
  rw [shape_upTo, shape_upTo]
  exact Text.glue_inj '/' (by simp [segments_ne_nil]) (by simp [segments_ne_nil])
    (fun _ => slash_not_mem_of_mem_shapes) (fun _ => slash_not_mem_of_mem_shapes)

/-- Two paths give parameters one name wherever they have one shape up to these. -/
def NamedAlike (path other : String) : Prop :=
  ∀ i j a b, parameterAt? path i = some a → parameterAt? other j = some b →
    shape (upTo path i) = shape (upTo other j) → a.name = b.name

theorem NamedAlike.symm {path other : String} (hAlike : NamedAlike path other) :
    NamedAlike other path := by
  intro i j a b ha hb hShape
  exact (hAlike j i b a hb ha hShape.symm).symm

/-- A path has one shape up to one of its segments only. -/
theorem eq_of_shape_upTo_eq {path : String} {i j : Nat} {a b : Parameter}
    (ha : parameterAt? path i = some a) (hb : parameterAt? path j = some b)
    (hShape : shape (upTo path i) = shape (upTo path j)) : i = j := by
  obtain ⟨segment, hSegment, -⟩ := Option.bind_eq_some_iff.mp ha
  obtain ⟨other, hOther, -⟩ := Option.bind_eq_some_iff.mp hb
  have hi := (List.getElem?_eq_some_iff.mp hSegment).1
  have hj := (List.getElem?_eq_some_iff.mp hOther).1
  have hLength := congrArg List.length ((shape_upTo_eq_iff path path i j).mp hShape)
  simp only [List.length_map, List.length_take] at hLength
  omega

theorem namedAlike_self (path : String) : NamedAlike path path := by
  intro i j a b ha hb hShape
  rw [eq_of_shape_upTo_eq ha hb hShape, hb] at ha
  rw [Option.some.inj ha]

/-- For paths that name their parameters alike, shapes tell as much as mounted forms. -/
theorem NamedAlike.mounted_eq_iff_shape_eq {path other : String}
    (hAlike : NamedAlike path other) :
    mounted path = mounted other ↔ shape path = shape other := by
  refine ⟨shape_eq_of_mounted_eq, fun hShape => ?_⟩
  have hShapes := (shape_eq_iff path other).mp hShape
  rw [mounted_eq_iff]
  apply List.ext_getElem?
  intro i
  have hAt := congrArg (fun shapes => shapes[i]?) hShapes
  simp only [List.getElem?_map] at hAt ⊢
  cases hSegment : (segments path)[i]? with
  | none =>
      rw [hSegment, Option.map_none] at hAt
      rw [Option.map_eq_none_iff.mp hAt.symm]
  | some segment =>
      cases hOther : (segments other)[i]? with
      | none => simp [hSegment, hOther] at hAt
      | some otherSegment =>
          simp only [hSegment, hOther, Option.map_some, Option.some.injEq] at hAt ⊢
          have hUpTo : shape (upTo path i) = shape (upTo other i) := by
            rw [shape_upTo_eq_iff, List.map_take, List.map_take, hShapes]
          exact mountedSegment_eq_of_shape_eq hAt fun a b ha hb =>
            hAlike i i a b (by simp [parameterAt?, hSegment, ha])
              (by simp [parameterAt?, hOther, hb]) hUpTo

end Route
end Switchboard
