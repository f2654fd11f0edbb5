import Switchboard.Proofs.Http.Shapes
import Switchboard.Proofs.Route.Joining
import Switchboard.Proofs.Service.Handling
import Switchboard.Proofs.Service.Routing

/-!
# Which services have a router

A compiled path is mounted as the pattern of its shape, if it has a pattern at all
(`Route.ofPath?_mounted_eq_some_iff`).  The compiler keeps the shapes of different paths apart, and
the router asks for more: that stars are last, that names hold no marks, that there are few
parameters, and that no path has a star where another has a parameter of one segment.  A service has
a router exactly if its paths are so (`router_exists_iff`), and the compiler does not see to it.

Segments that are no parameters must be free of marks.  With a mark in the middle of a segment there
may be a router, but it is one of other paths than those that were compiled.
-/

namespace Switchboard

open Catalogue (Entry)
open Dispatch (Provider Token)
open Endpoint (Declaration)
open Http (Pattern Place)
open Http.Router (exists_build?_eq_some_iff exists_mem_placesOf forall₂_eq_some_iff
  isPlaced_placesOf nodup_methods placesOf)

namespace Route

/-! ### Segments -/

/-- What is not a parameter holds no mark of one. -/
def IsMarkFree (segment : String) : Prop :=
  parameter? segment = none → ∀ c ∈ segment.toList, Http.isMark c = false

/-- The name of a parameter holds no mark. -/
def HasPlainName (segment : String) : Prop :=
  ∀ parameter, parameter? segment = some parameter →
    ∀ c ∈ parameter.name.toList, Http.isMark c = false

/-- A segment has the shape of a mark exactly if it is a parameter of the kind that is marked so. -/
theorem segmentShape_eq_mark_iff (segment : String) (catchAll : Bool) :
    segmentShape segment = (if catchAll then "*" else ":") ↔
      ∃ parameter, parameter? segment = some parameter ∧ parameter.catchAll = catchAll := by
  cases hParameter : parameter? segment with
  | none =>
    have hMark := ne_mark_of_parameter?_eq_none hParameter ""
    rw [segmentShape_of_eq_none hParameter]
    cases catchAll with
    | false => exact iff_of_false hMark.1 nofun
    | true => exact iff_of_false hMark.2 nofun
  | some parameter =>
    rw [segmentShape_of_parameter? hParameter]
    cases hCatch : parameter.catchAll with
    | false => cases catchAll <;> simp [hCatch]
    | true => cases catchAll <;> simp [hCatch]

theorem isShape_segmentShape {segment : String} (hFree : '/' ∉ segment.toList)
    (hMarks : IsMarkFree segment) : Pattern.IsShape (segmentShape segment) := by
  cases hParameter : parameter? segment with
  | none =>
    rw [segmentShape_of_eq_none hParameter]
    exact .plain fun c hc => ⟨hMarks hParameter c hc, fun h => hFree (h ▸ hc)⟩
  | some parameter =>
    rw [segmentShape_of_parameter? hParameter]
    cases parameter.catchAll with
    | false => exact .colon
    | true => exact .star

/-- A mounted segment is read as the pattern of its shape, if its name allows it to be read. -/
theorem read?_mountedSegment_eq_some_iff {segment : String} (hFree : '/' ∉ segment.toList)
    (hMarks : IsMarkFree segment)
    (hNamed : ∀ parameter, parameter? segment = some parameter → parameter.name ≠ "")
    (pattern : Pattern) :
    Pattern.read? (mountedSegment segment).toList = some pattern ↔
      HasPlainName segment ∧ pattern = Pattern.ofSegment (segmentShape segment) := by
  cases hParameter : parameter? segment with
  | none =>
    have hPlain := hMarks hParameter
    have hName : HasPlainName segment := fun parameter h => nomatch hParameter.symm.trans h
    rw [mountedSegment_of_eq_none hParameter, segmentShape_of_eq_none hParameter,
      Pattern.read?_of_forall_isMark_eq_false hPlain,
      Pattern.ofSegment_plain fun c hc => ⟨hPlain c hc, fun h => hFree (h ▸ hc)⟩,
      Option.some.injEq, eq_comm]
    exact (and_iff_right hName).symm
  | some parameter =>
    have hSlash : '/' ∉ parameter.name.toList :=
      fun h => hFree (parameter?_name_subset hParameter h)
    have hNonempty : parameter.name.toList.isEmpty = false := by
      simpa using hNamed parameter hParameter
    have hName : HasPlainName segment ↔ parameter.name.toList.any Http.isMark = false := by
      simp [HasPlainName, hParameter]
    have hRead : Pattern.read? (mountedSegment segment).toList =
        if parameter.name.toList.any Http.isMark then none
        else some (Pattern.ofSegment (segmentShape segment)) := by
      rw [mountedSegment_of_parameter? hParameter, segmentShape_of_parameter? hParameter]
      cases parameter.catchAll with
      | false =>
        have hText : (":" ++ parameter.name).toList = ':' :: parameter.name.toList := by simp
        rw [if_neg (by decide), hText, Pattern.read?_mark (by decide) hSlash, hNonempty]
        rfl
      | true =>
        have hText : ("*" ++ parameter.name).toList = '*' :: parameter.name.toList := by simp
        rw [if_pos rfl, hText, Pattern.read?_mark (by decide) hSlash, hNonempty]
        rfl
    rw [hRead, hName]
    cases parameter.name.toList.any Http.isMark with
    | false => simp [eq_comm]
    | true => simp

/-! ### Paths -/

/-- What a router asks of a path by itself: stars are last, names hold no marks, and there are fewer
parameters of one segment than a router allows. -/
structure IsMountable (path : String) : Prop where
  star_last : ∀ index parameter, parameterAt? path index = some parameter →
    parameter.catchAll = true → index + 1 = (segments path).length
  name_plain : ∀ index parameter, parameterAt? path index = some parameter →
    ∀ c ∈ parameter.name.toList, Http.isMark c = false
  few : (segments (shape path)).count ":" < Http.paramLimit

/-- What a router asks of two paths: parameters that follow the same segments take both one segment
or both all that is left. -/
def KindsAgree (path other : String) : Prop :=
  ∀ index a b, parameterAt? path index = some a → parameterAt? other index = some b →
    (segments (shape path)).take index = (segments (shape other)).take index →
      a.catchAll = b.catchAll

/-- The pattern of the shape of a path. -/
def patternOf (path : String) : Pattern :=
  Pattern.ofShapes (segments (shape path))

theorem getElem?_shape_eq_mark_iff (path : String) (index : Nat) (catchAll : Bool) :
    (segments (shape path))[index]? = some (if catchAll then "*" else ":") ↔
      ∃ parameter, parameterAt? path index = some parameter ∧ parameter.catchAll = catchAll := by
  rw [segments_shape, List.getElem?_map, parameterAt?]
  cases (segments path)[index]? with
  | none => simp
  | some segment => simp [segmentShape_eq_mark_iff]

theorem parameterAt?_eq_some_iff (path : String) (index : Nat) (parameter : Parameter) :
    parameterAt? path index = some parameter ↔
      ∃ segment, (segments path)[index]? = some segment ∧ parameter? segment = some parameter :=
  Option.bind_eq_some_iff

/-- Something holds of all parameters of a path if it holds of those of its segments. -/
theorem forall_parameterAt?_iff (path : String) (p : Parameter → Prop) :
    (∀ index parameter, parameterAt? path index = some parameter → p parameter) ↔
      ∀ segment ∈ segments path, ∀ parameter, parameter? segment = some parameter →
        p parameter := by
  constructor
  · intro hAll segment hSegment parameter hParameter
    obtain ⟨index, hIndex⟩ := List.mem_iff_getElem?.mp hSegment
    exact hAll index parameter ((parameterAt?_eq_some_iff _ _ _).mpr ⟨segment, hIndex, hParameter⟩)
  · intro hAll index parameter hAt
    obtain ⟨segment, hIndex, hParameter⟩ := (parameterAt?_eq_some_iff _ _ _).mp hAt
    exact hAll segment (List.mem_of_getElem? hIndex) parameter hParameter

theorem starsLast_iff (path : String) :
    Pattern.StarsLast (segments (shape path)) ↔
      ∀ index parameter, parameterAt? path index = some parameter →
        parameter.catchAll = true → index + 1 = (segments path).length := by
  have hLength : (segments (shape path)).length = (segments path).length := by
    rw [segments_shape, List.length_map]
  rw [Pattern.StarsLast, hLength]
  constructor
  · intro hStars index parameter hAt hCatch
    exact hStars index ((getElem?_shape_eq_mark_iff path index true).mpr ⟨parameter, hAt, hCatch⟩)
  · intro hStars index hStar
    obtain ⟨parameter, hAt, hCatch⟩ := (getElem?_shape_eq_mark_iff path index true).mp hStar
    exact hStars index parameter hAt hCatch

theorem kindsAgree_iff (path other : String) :
    KindsAgree path other ↔
      ¬ Pattern.MixesKinds (segments (shape path)) (segments (shape other)) := by
  constructor
  · rintro hAgree ⟨index, hSame, ⟨hColon, hStar⟩ | ⟨hStar, hColon⟩⟩
    · obtain ⟨a, ha, hOne⟩ := (getElem?_shape_eq_mark_iff path index false).mp hColon
      obtain ⟨b, hb, hAll⟩ := (getElem?_shape_eq_mark_iff other index true).mp hStar
      simp [hAgree index a b ha hb hSame, hAll] at hOne
    · obtain ⟨a, ha, hAll⟩ := (getElem?_shape_eq_mark_iff path index true).mp hStar
      obtain ⟨b, hb, hOne⟩ := (getElem?_shape_eq_mark_iff other index false).mp hColon
      simp [hAgree index a b ha hb hSame, hOne] at hAll
  · intro hNot index a b ha hb hSame
    by_contra hKinds
    refine hNot ⟨index, hSame, ?_⟩
    have hMark := (getElem?_shape_eq_mark_iff path index a.catchAll).mpr ⟨a, ha, rfl⟩
    have hOther := (getElem?_shape_eq_mark_iff other index b.catchAll).mpr ⟨b, hb, rfl⟩
    cases hCatch : a.catchAll with
    | false =>
      have hAll : b.catchAll = true := by simpa [hCatch] using Ne.symm hKinds
      rw [hCatch] at hMark
      rw [hAll] at hOther
      exact Or.inl ⟨hMark, hOther⟩
    | true =>
      have hOne : b.catchAll = false := by simpa [hCatch] using Ne.symm hKinds
      rw [hCatch] at hMark
      rw [hOne] at hOther
      exact Or.inr ⟨hMark, hOther⟩

theorem KindsAgree.of_shape_eq {path other : String} (hShape : shape path = shape other) :
    KindsAgree path other := by
  rw [kindsAgree_iff, hShape]
  rintro ⟨index, -, ⟨hColon, hStar⟩ | ⟨hStar, hColon⟩⟩
  · exact absurd (hColon.symm.trans hStar) (by decide)
  · exact absurd (hStar.symm.trans hColon) (by decide)

/-- A path is mounted as the pattern of its shape, if it can be mounted at all. -/
theorem ofPath?_mounted_eq_some_iff {path : String}
    (hMarks : ∀ segment ∈ segments path, IsMarkFree segment)
    (hNamed : ∀ index parameter, parameterAt? path index = some parameter → parameter.name ≠ "")
    (pattern : Pattern) :
    Pattern.ofPath? (mounted path) = some pattern ↔
      IsMountable path ∧ pattern = patternOf path := by
  have hSlash : ∀ part ∈ (segments path).map fun segment => (mountedSegment segment).toList,
      '/' ∉ part := by
    intro part hPart
    obtain ⟨segment, hSegment, rfl⟩ := List.mem_map.mp hPart
    exact slash_not_mem_mountedSegment (slash_not_mem_of_mem_segments hSegment)
  have hRead : ∀ segment ∈ segments path, ∀ own,
      Pattern.read? (mountedSegment segment).toList = some own ↔
        HasPlainName segment ∧ own = Pattern.ofSegment (segmentShape segment) :=
    fun segment hSegment => read?_mountedSegment_eq_some_iff
      (slash_not_mem_of_mem_segments hSegment) (hMarks segment hSegment)
      ((forall_parameterAt?_iff path _).mp hNamed segment hSegment)
  have hText : (mounted path).toList = Text.join '/'
      ((segments path).map fun segment => (mountedSegment segment).toList) := by
    rw [mounted, Text.glue, String.toList_ofList, List.map_map]
    rfl
  have hMountable : IsMountable path ↔ (∀ segment ∈ segments path, HasPlainName segment) ∧
      Pattern.StarsLast (segments (shape path)) ∧
        (patternOf path).count .param < Http.paramLimit := by
    rw [starsLast_iff, patternOf, Pattern.count_ofShapes]
    constructor
    · intro h
      exact ⟨(forall_parameterAt?_iff path _).mp h.name_plain, h.star_last, h.few⟩
    · rintro ⟨hNames, hStars, hFew⟩
      exact ⟨hStars, (forall_parameterAt?_iff path _).mpr hNames, hFew⟩
  rw [Pattern.ofPath?, Option.filter_eq_some_iff, hText, decide_eq_true_iff, hMountable]
  by_cases hNames : ∀ segment ∈ segments path, HasPlainName segment
  · have hEach : List.Forall₂
        (fun part shape => '/' ∉ part ∧ Pattern.read? part = some (Pattern.ofSegment shape))
        ((segments path).map fun segment => (mountedSegment segment).toList)
        (segments (shape path)) := by
      rw [segments_shape, List.forall₂_map_left_iff, List.forall₂_map_right_iff,
        List.forall₂_same]
      intro segment hSegment
      exact ⟨hSlash _ (List.mem_map_of_mem hSegment),
        (hRead segment hSegment _).mpr ⟨hNames segment hSegment, rfl⟩⟩
    rw [Pattern.read?_join_eq_some_iff hEach (by simp [segments_ne_nil]), ← patternOf]
    constructor
    · rintro ⟨⟨hStars, hSame⟩, hFew⟩
      exact ⟨⟨hNames, hStars, hSame ▸ hFew⟩, hSame⟩
    · rintro ⟨⟨-, hStars, hFew⟩, hSame⟩
      exact ⟨⟨hStars, hSame⟩, hSame ▸ hFew⟩
  · -- One of the names is not read, so nothing is.
    refine iff_of_false (fun h => hNames fun segment hSegment => ?_) fun h => hNames h.1.1
    obtain ⟨own, hOwn⟩ := Pattern.exists_read?_of_mem hSlash h.1
      (List.mem_map_of_mem (f := fun segment => (mountedSegment segment).toList) hSegment)
    exact ((hRead segment hSegment own).mp hOwn).1

/-- A path that begins with a slash, whose parameters are named and whose other segments are free of
marks. -/
structure IsRegular (path : String) : Prop where
  absolute : ∃ next rest, segments path = "" :: next :: rest
  named : ∀ index parameter, parameterAt? path index = some parameter → parameter.name ≠ ""
  mark_free : ∀ segment ∈ segments path, IsMarkFree segment

theorem patternOf_mounted (path : String) : patternOf (mounted path) = patternOf path := by
  rw [patternOf, patternOf, shape_mounted]

theorem kindsAgree_mounted_iff (path other : String) :
    KindsAgree (mounted path) (mounted other) ↔ KindsAgree path other := by
  rw [kindsAgree_iff, kindsAgree_iff, shape_mounted, shape_mounted]

theorem KindsAgree.symm {path other : String} (hAgree : KindsAgree path other) :
    KindsAgree other path := fun index a b ha hb hSame =>
  (hAgree index b a hb ha hSame.symm).symm

/-- The patterns of paths that can be mounted clash if the paths have one shape, or have a star and
a parameter of one segment in one place. -/
theorem clashes_patternOf_iff {path other : String} (hPath : IsRegular path)
    (hOther : IsRegular other) (hMounts : IsMountable path) (hOtherMounts : IsMountable other) :
    (patternOf path).clashes (patternOf other) = true ↔
      shape path = shape other ∨ ¬ KindsAgree path other := by
  have hShapes : ∀ {path : String}, IsRegular path →
      ∀ s ∈ segments (shape path), Pattern.IsShape s := by
    intro path hRegular s hs
    rw [segments_shape] at hs
    obtain ⟨segment, hSegment, rfl⟩ := List.mem_map.mp hs
    exact isShape_segmentShape (slash_not_mem_of_mem_segments hSegment)
      (hRegular.mark_free segment hSegment)
  rw [patternOf, patternOf, Pattern.clashes_ofShapes_iff (hShapes hPath) (hShapes hOther)
    ((starsLast_iff path).mpr hMounts.star_last) ((starsLast_iff other).mpr hOtherMounts.star_last)
    (segments_ne_nil _) (segments_ne_nil _), kindsAgree_iff, not_not, shape_eq_iff, segments_shape,
    segments_shape]

theorem IsRegular.isAnchored_patternOf {path : String} (hRegular : IsRegular path)
    (earlier : List Pattern) : Pattern.isAnchored earlier (patternOf path) = true := by
  obtain ⟨next, rest, hSegments⟩ := hRegular.absolute
  rw [patternOf, segments_shape, hSegments]
  exact Pattern.isAnchored_ofShapes ..

end Route

namespace Service

variable {σ κ ρ ι : Type} {routePrefix : String} {provider : Provider σ κ ι}
  {isCancelled : Token → σ → Bool} {endpoints : List (Endpoint σ ρ ι)} {service : Service σ κ ρ ι}

/-- What compiling settles about the paths of a service. -/
theorem isRegular_of_mem_mounts
    (hService : assemble routePrefix provider isCancelled endpoints = .ok service)
    {mount : Mount ρ} (hMount : mount ∈ service.mounts)
    (hMarks : ∀ segment ∈ Route.segments mount.route.path, Route.IsMarkFree segment) :
    Route.IsRegular mount.route.path := by
  obtain ⟨pairs, hPaired⟩ := exists_isPaired hService
  rw [hPaired.mounts] at hMount
  obtain ⟨pair, hPair, rfl⟩ := List.mem_map.mp hMount
  refine ⟨?_, ?_, hMarks⟩
  · obtain ⟨-, -, hPath⟩ := Catalogue.of_entryOf_eq_ok (hPaired.compiled pair hPair)
    simp only [hPath, Catalogue.pathOf, Route.segments_joined]
    obtain ⟨next, rest, hBody⟩ := List.exists_cons_of_ne_nil (Route.rooted_ne_nil _)
    exact ⟨next, rest, by rw [hBody]⟩
  · obtain ⟨catalogue, mounts, registry, hCompile, -, rfl⟩ :=
      (assemble_eq_ok_iff provider isCancelled service).mp hService
    have hEntry : pair.1 ∈ catalogue.entries := by
      rw [← hPaired.entries]
      exact List.mem_map_of_mem hPair
    exact Catalogue.isNamed_of_mem_entries hCompile hEntry

/-- Something holds of the paths of all places if it holds of the mounted paths of all routes. -/
theorem forall_mem_placesOf_iff (service : Service σ κ ρ ι) (p : String → Prop) :
    (∀ place ∈ placesOf (service.mounts.map Mount.routed), p place.path) ↔
      ∀ mount ∈ service.mounts, p (Route.mounted mount.route.path) := by
  constructor
  · intro hAll mount hMount
    have hRoute : mount.routed ∈ service.mounts.map Mount.routed := List.mem_map_of_mem hMount
    obtain ⟨place, hPlace, hPath⟩ := exists_mem_placesOf hRoute
    have hHolds := hAll place hPlace
    rwa [hPath] at hHolds
  · intro hAll place hPlace
    obtain ⟨route, hRoute, hPath⟩ := (isPlaced_placesOf _).path_mem place hPlace
    obtain ⟨mount, hMount, rfl⟩ := List.mem_map.mp hRoute
    exact hPath ▸ hAll mount hMount

/-- The patterns of places that can be mounted can be tried together exactly if no two routes have
parameters of different kinds in one place.  Their shapes differ, for the compiler sees to that. -/
theorem allFit_iff_kindsAgree {pairs : List (Entry × Endpoint σ ρ ι)}
    (hPaired : IsPaired routePrefix endpoints service pairs)
    (hRegular : ∀ mount ∈ service.mounts, Route.IsRegular mount.route.path)
    (hMountable : ∀ mount ∈ service.mounts, Route.IsMountable mount.route.path) :
    Pattern.allFit [] ((placesOf (service.mounts.map Mount.routed)).map fun place =>
        Route.patternOf place.path) = true ↔
      ∀ mount ∈ service.mounts, ∀ other ∈ service.mounts,
        Route.KindsAgree mount.route.path other.route.path := by
  -- A place is at the mounted path of a route, which has the shape of the path that was compiled.
  have hMountOf := (forall_mem_placesOf_iff service fun path => ∃ mount ∈ service.mounts,
    Route.mounted mount.route.path = path).mpr fun mount hMount => ⟨mount, hMount, rfl⟩
  have hAnchored : ∀ pattern ∈ (placesOf (service.mounts.map Mount.routed)).map fun place =>
      Route.patternOf place.path, ∀ earlier, Pattern.isAnchored earlier pattern = true := by
    intro pattern hPattern earlier
    obtain ⟨place, hPlace, rfl⟩ := List.mem_map.mp hPattern
    obtain ⟨mount, hMount, hPath⟩ := hMountOf place hPlace
    rw [← hPath, Route.patternOf_mounted]
    exact (hRegular mount hMount).isAnchored_patternOf earlier
  have hClash : ∀ p ∈ placesOf (service.mounts.map Mount.routed),
      ∀ q ∈ placesOf (service.mounts.map Mount.routed),
        (Route.patternOf q.path).clashes (Route.patternOf p.path) = true ↔
          Route.shape q.path = Route.shape p.path ∨ ¬ Route.KindsAgree q.path p.path := by
    intro p hp q hq
    obtain ⟨mount, hMount, hPath⟩ := hMountOf p hp
    obtain ⟨other, hOther, hOtherPath⟩ := hMountOf q hq
    rw [← hPath, ← hOtherPath, Route.patternOf_mounted, Route.patternOf_mounted,
      Route.shape_mounted, Route.shape_mounted, Route.kindsAgree_mounted_iff]
    exact Route.clashes_patternOf_iff (hRegular other hOther) (hRegular mount hMount)
      (hMountable other hOther) (hMountable mount hMount)
  have hPlaces : (∀ p ∈ placesOf (service.mounts.map Mount.routed),
        ∀ q ∈ placesOf (service.mounts.map Mount.routed), Route.KindsAgree p.path q.path) ↔
      ∀ mount ∈ service.mounts, ∀ other ∈ service.mounts,
        Route.KindsAgree mount.route.path other.route.path := by
    rw [forall_mem_placesOf_iff service fun path =>
      ∀ q ∈ placesOf (service.mounts.map Mount.routed), Route.KindsAgree path q.path]
    refine forall₂_congr fun mount _ => ?_
    rw [forall_mem_placesOf_iff service fun path =>
      Route.KindsAgree (Route.mounted mount.route.path) path]
    simp only [Route.kindsAgree_mounted_iff]
  rw [Pattern.allFit_iff hAnchored, List.pairwise_map, ← hPlaces]
  constructor
  · rintro ⟨-, hApart⟩
    have hAgree : (placesOf (service.mounts.map Mount.routed)).Pairwise fun p q =>
        Route.KindsAgree p.path q.path := by
      refine hApart.imp_of_mem fun {p q} hp hq hNone => ?_
      by_contra hNot
      have hClashes := (hClash p hp q hq).mpr (Or.inr fun hSymm => hNot hSymm.symm)
      exact absurd (hClashes.symm.trans hNone) (by decide)
    have hSymm : Std.Symm fun p q : Place (Mount ρ) => Route.KindsAgree p.path q.path :=
      ⟨fun _ _ => Route.KindsAgree.symm⟩
    exact hAgree.forall_of_forall fun p _ => .of_shape_eq rfl
  · intro hAgree
    refine ⟨by simp, hPaired.shapes_ne.imp_of_mem fun {p q} hp hq hNe => ?_⟩
    rw [Bool.eq_false_iff, ne_eq, hClash p hp q hq]
    rintro (hShape | hNot)
    · exact hNe hShape.symm
    · exact hNot (hAgree q hq p hp)

/-- **A service has a router exactly if its paths go together.**  Each of them must be one that can
be mounted by itself, and no two may have parameters of different kinds in one place. -/
theorem router_exists_iff
    (hService : assemble routePrefix provider isCancelled endpoints = .ok service)
    (hMarks : ∀ mount ∈ service.mounts,
      ∀ segment ∈ Route.segments mount.route.path, Route.IsMarkFree segment) :
    (∃ router, service.router? = some router) ↔
      (∀ mount ∈ service.mounts, Route.IsMountable mount.route.path) ∧
        ∀ mount ∈ service.mounts, ∀ other ∈ service.mounts,
          Route.KindsAgree mount.route.path other.route.path := by
  obtain ⟨pairs, hPaired⟩ := exists_isPaired hService
  have hRegular : ∀ mount ∈ service.mounts, Route.IsRegular mount.route.path :=
    fun mount hMount => isRegular_of_mem_mounts hService hMount (hMarks mount hMount)
  have hPattern : ∀ mount ∈ service.mounts, ∀ pattern,
      Pattern.ofPath? (Route.mounted mount.route.path) = some pattern ↔
        Route.IsMountable mount.route.path ∧
          pattern = Route.patternOf (Route.mounted mount.route.path) := by
    intro mount hMount pattern
    rw [Route.patternOf_mounted]
    exact Route.ofPath?_mounted_eq_some_iff (hRegular mount hMount).mark_free
      (hRegular mount hMount).named pattern
  -- No path has another pattern than that of its shape, so the patterns are known beforehand.
  have hOnly := (forall_mem_placesOf_iff service fun path => ∀ pattern,
    Pattern.ofPath? path = some pattern → pattern = Route.patternOf path).mpr
      fun mount hMount pattern h => ((hPattern mount hMount pattern).mp h).2
  have hMountable : (∀ place ∈ placesOf (service.mounts.map Mount.routed),
        Pattern.ofPath? place.path = some (Route.patternOf place.path)) ↔
      ∀ mount ∈ service.mounts, Route.IsMountable mount.route.path := by
    rw [forall_mem_placesOf_iff service fun path =>
      Pattern.ofPath? path = some (Route.patternOf path)]
    exact forall₂_congr fun mount hMount => (hPattern mount hMount _).trans (and_iff_left rfl)
  rw [router?, exists_build?_eq_some_iff]
  simp only [forall₂_eq_some_iff hOnly, hMountable]
  constructor
  · rintro ⟨patterns, ⟨hAll, rfl⟩, hFit, -⟩
    exact ⟨hAll, (allFit_iff_kindsAgree hPaired hRegular hAll).mp hFit⟩
  · rintro ⟨hAll, hAgree⟩
    exact ⟨_, ⟨hAll, rfl⟩, (allFit_iff_kindsAgree hPaired hRegular hAll).mpr hAgree,
      fun place hPlace => nodup_methods hPaired.methods_ne hPlace⟩

/-! ### Files of the sample world -/

/-- A query for a file by its name. -/
def findFile : Declaration :=
  (((Declaration.bare "app::Files" "Find" .get).withRoute "{name}").withQuery
    ⟨some "Find", false⟩).withHandler ⟨[⟨"file", "Find"⟩], some "String"⟩

/-- A command for files at a route. -/
def pingFiles (route : String) : Declaration :=
  (((Declaration.bare "app::Files" "Ping" .post).withRoute route).withCommand
    ⟨some "Ping", false⟩).withHandler ⟨[], none⟩

/-- A query for one file, and a command at another route. -/
def assembleFiles (route : String) : Except AssemblyFault Sample.SampleService :=
  assemble "" (Sample.provider .empty {}) Sample.State.isCancelled
    [.of findFile (Sample.queryHandler Sample.findType "alloc::string::String" [.request]
        fun _ => Sample.finishEmpty),
      .of (pingFiles route) (Sample.commandHandler Sample.pingType [] fun _ => Sample.finishEmpty)]

/-- A command for all that is below a file goes together with the query for the file. -/
theorem sample_paths_go_together :
    ∃ service, assembleFiles "{name}/{*rest}" = .ok service ∧
      (∃ router, service.router? = some router) ∧
      (∀ mount ∈ service.mounts, Route.IsMountable mount.route.path) ∧
        ∀ mount ∈ service.mounts, ∀ other ∈ service.mounts,
          Route.KindsAgree mount.route.path other.route.path := by
  have hHolds : holdsOfAssembled (assembleFiles "{name}/{*rest}") (fun service _ =>
      service.mounts.all fun mount =>
        (Route.segments mount.route.path).all fun segment =>
          (Route.parameter? segment).isSome || !segment.toList.any Http.isMark) = true := by
    decide +kernel
  obtain ⟨service, router, hService, hRouter, hCheck⟩ := exists_of_holdsOfAssembled hHolds
  have hMarks : ∀ mount ∈ service.mounts,
      ∀ segment ∈ Route.segments mount.route.path, Route.IsMarkFree segment := by
    intro mount hMount segment hSegment hNone
    have hSegments := List.all_eq_true.mp hCheck mount hMount
    simpa [hNone] using List.all_eq_true.mp hSegments segment hSegment
  exact ⟨service, hService, ⟨router, hRouter⟩,
    (router_exists_iff hService hMarks).mp ⟨router, hRouter⟩⟩

/-- A command for all files is compiled and assembled beside the query for one of them, although the
two give the parameter after one prefix different names.  There is no router for them. -/
theorem sample_star_beside_parameter_lacks_router :
    ∃ service, assembleFiles "{*rest}" = .ok service ∧ service.router? = none := by
  have hHolds : ((assembleFiles "{*rest}").toOption.map fun service =>
      service.router?.isNone) = some true := by
    decide +kernel
  obtain ⟨service, hSome, hNone⟩ := Option.map_eq_some_iff.mp hHolds
  cases hService : assembleFiles "{*rest}" with
  | error fault => simp [hService, Except.toOption] at hSome
  | ok assembled =>
    rw [hService] at hSome
    obtain rfl := Option.some.inj hSome
    exact ⟨assembled, rfl, Option.isNone_iff_eq_none.mp hNone⟩

end Service
end Switchboard
