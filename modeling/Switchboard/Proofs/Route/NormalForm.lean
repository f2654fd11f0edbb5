import Mathlib.Data.List.Forall2
import Switchboard.Proofs.Route.Shape

/-!
# Mounted paths as normal forms

A parameter can be spelled in several ways, and mounting settles the spelling: what is written is
read back as the same parameter (`parameter?_mountedSegment`), so mounting a mounted path changes
nothing.  A mounted path is therefore a normal form of the paths that say the same, segment by
segment, and the shape is a coarser normal form that can be told from it.

Names are trimmed when they are read and not when they are written, which is why reading twice gives
the same name; what else is in a name, be it a mark or a brace, is never looked at again behind the
mark that mounting puts in front.
-/

namespace Switchboard
namespace Route

/-! ### One segment -/

/-- The name of a parameter has no blanks at its ends. -/
theorem trim_name_of_parameter? {segment : String} {parameter : Parameter}
    (hSome : parameter? segment = some parameter) :
    Text.trim parameter.name = parameter.name := by
  obtain ⟨⟨name, catchAll⟩, -, rfl⟩ := Option.map_eq_some_iff.mp hSome
  exact Text.trim_trim _

/-- A mounted segment spells the parameter that the segment spells. -/
@[simp]
theorem parameter?_mountedSegment (segment : String) :
    parameter? (mountedSegment segment) = parameter? segment := by
  cases hParameter : parameter? segment with
  | none => rw [mountedSegment_of_eq_none hParameter, hParameter]
  | some parameter =>
      have hTrim := trim_name_of_parameter? hParameter
      obtain ⟨name, catchAll⟩ := parameter
      rw [mountedSegment_of_parameter? hParameter]
      cases catchAll with
      | false => exact (parameter?_colon name).trans (by rw [hTrim])
      | true => exact (parameter?_star name).trans (by rw [hTrim])

@[simp]
theorem mountedSegment_mountedSegment (segment : String) :
    mountedSegment (mountedSegment segment) = mountedSegment segment := by
  cases hParameter : parameter? segment with
  | none => rw [mountedSegment_of_eq_none hParameter, mountedSegment_of_eq_none hParameter]
  | some parameter =>
      have hMounted : parameter? (mountedSegment segment) = some parameter := by
        rw [parameter?_mountedSegment, hParameter]
      rw [mountedSegment_of_parameter? hMounted, mountedSegment_of_parameter? hParameter]

/-- A bare mark is the shape of itself. -/
@[simp]
theorem segmentShape_segmentShape (segment : String) :
    segmentShape (segmentShape segment) = segmentShape segment := by
  cases hParameter : parameter? segment with
  | none => rw [segmentShape_of_eq_none hParameter, segmentShape_of_eq_none hParameter]
  | some parameter =>
      rw [segmentShape_of_parameter? hParameter]
      cases parameter.catchAll with
      | false => exact segmentShape_of_parameter? (parameter?_colon "")
      | true => exact segmentShape_of_parameter? (parameter?_star "")

/-- Two segments say the same: they are one plain text, or parameters of one name and one kind. -/
inductive SaysSame : String → String → Prop
  | plain {segment : String} (hPlain : parameter? segment = none) : SaysSame segment segment
  | parameter {segment other : String} (name : String) (catchAll : Bool)
      (hSegment : parameter? segment = some ⟨name, catchAll⟩)
      (hOther : parameter? other = some ⟨name, catchAll⟩) : SaysSame segment other

theorem mountedSegment_eq_iff (segment other : String) :
    mountedSegment segment = mountedSegment other ↔ SaysSame segment other := by
  constructor
  · intro hMounted
    have hSame : parameter? segment = parameter? other := by
      rw [← parameter?_mountedSegment segment, hMounted, parameter?_mountedSegment]
    cases hParameter : parameter? segment with
    | none =>
        have hOther : parameter? other = none := hSame.symm.trans hParameter
        rw [mountedSegment_of_eq_none hParameter, mountedSegment_of_eq_none hOther] at hMounted
        subst hMounted
        exact .plain hParameter
    | some parameter =>
        exact .parameter parameter.name parameter.catchAll hParameter (hSame.symm.trans hParameter)
  · intro hSays
    cases hSays with
    | plain => rfl
    | parameter name catchAll hSegment hOther =>
        rw [mountedSegment_of_parameter? hSegment, mountedSegment_of_parameter? hOther]

/-! ### Whole paths -/

@[simp]
theorem mounted_mounted (path : String) : mounted (mounted path) = mounted path := by
  rw [mounted, segments_mounted, List.map_map, mounted]
  congr 1
  exact List.map_congr_left fun segment _ => mountedSegment_mountedSegment segment

@[simp]
theorem shape_shape (path : String) : shape (shape path) = shape path := by
  rw [shape, segments_shape, List.map_map, shape]
  congr 1
  exact List.map_congr_left fun segment _ => segmentShape_segmentShape segment

/-- The parameters of a mounted path are those of the path, in the same places. -/
theorem map_parameter?_segments_mounted (path : String) :
    (segments (mounted path)).map parameter? = (segments path).map parameter? := by
  rw [segments_mounted, List.map_map]
  exact List.map_congr_left fun segment _ => parameter?_mountedSegment segment

/-- Paths have one mounted form if they say the same in each of their segments. -/
theorem mounted_eq_iff_forall₂ (path other : String) :
    mounted path = mounted other ↔ List.Forall₂ SaysSame (segments path) (segments other) := by
  rw [mounted_eq_iff, ← List.forall₂_eq_eq_eq, List.forall₂_map_left_iff,
    List.forall₂_map_right_iff]
  simp only [mountedSegment_eq_iff]

/-- **The mounted form of a path is a normal form.**  Mounting it again changes nothing, its shape is
the shape of the path, and its segments spell the same parameters in the same places.  Two paths have
it in common exactly if they say the same segment by segment, and then they have one shape. -/
theorem mounted_is_normal_form (path : String) :
    mounted (mounted path) = mounted path ∧
      shape (mounted path) = shape path ∧
      shape (shape path) = shape path ∧
      (segments (mounted path)).map parameter? = (segments path).map parameter? ∧
      ∀ other, (mounted path = mounted other → shape path = shape other) ∧
        (mounted path = mounted other ↔
          List.Forall₂ SaysSame (segments path) (segments other)) :=
  ⟨mounted_mounted path, shape_mounted path, shape_shape path,
    map_parameter?_segments_mounted path,
    fun other => ⟨shape_eq_of_mounted_eq, mounted_eq_iff_forall₂ path other⟩⟩

/-- A constraint and blanks around a name do not count, and so these paths have one shape. -/
theorem sample_spellings_have_one_shape :
    mounted "/users/{ id:int}/*rest" = mounted "/users/:id /{*rest?}" ∧
      shape "/users/{ id:int}/*rest" = shape "/users/:id /{*rest?}" := by
  have hMounted : mounted "/users/{ id:int}/*rest" = mounted "/users/:id /{*rest?}" := by
    decide +kernel
  obtain ⟨-, -, -, -, hOthers⟩ := mounted_is_normal_form "/users/{ id:int}/*rest"
  exact ⟨hMounted, (hOthers _).1 hMounted⟩

end Route
end Switchboard
