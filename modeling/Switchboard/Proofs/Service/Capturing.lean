import Switchboard.Proofs.Route.NormalForm
import Switchboard.Proofs.Service.PathParameters

/-!
# The parameters of a matched path, in order

Where a path matches a mounted path segment by segment, each parameter captures a text: its segment,
or all that is left of the path.  The parameters are written into a query string and read out of it
by other rules than those by which they were captured.  Still what is read is the list of what was
captured (`captured_parameters_are_read_back`): no pair is lost, added or moved, whatever marks,
escapes and lone percent signs the captured texts hold.  The texts stand for what their escapes say,
and a plus sign in a path stands for itself.
-/

namespace Switchboard
namespace Route

/-- The parameters of a path, from the left to the right. -/
def parameters (path : String) : List Parameter :=
  (segments path).filterMap parameter?

/-- Mounting a path keeps its parameters. -/
theorem parameters_mounted (path : String) : parameters (mounted path) = parameters path := by
  have hMap (segments : List String) :
      segments.filterMap parameter? = (segments.map parameter?).filterMap id := by
    rw [List.filterMap_map]
    rfl
  rw [parameters, hMap, map_parameter?_segments_mounted, ← hMap, parameters]

/-- A segment of a mounted path is written in its own mounted form. -/
theorem mountedSegment_of_mem_segments_mounted {path segment : String}
    (hSegment : segment ∈ segments (mounted path)) : mountedSegment segment = segment := by
  rw [segments_mounted] at hSegment
  obtain ⟨source, -, rfl⟩ := List.mem_map.mp hSegment
  exact mountedSegment_mountedSegment source

/-- Behind the mark of a mounted parameter stands its name as it is read. -/
theorem name_eq_of_mounted {mark name : String} {parameter : Parameter}
    (hMounted : mountedSegment (mark ++ name) = mark ++ name)
    (hSome : parameter? (mark ++ name) = some parameter)
    (hMark : (if parameter.catchAll then "*" else ":") = mark) : parameter.name = name := by
  rw [mountedSegment_of_parameter? hSome, hMark] at hMounted
  exact (String.append_right_inj mark).mp hMounted

end Route

namespace Service

open Http (percentDecoded)
open Route (mounted parameter? parameters segments)

/-- A path matches a template segment by segment, and its parameters capture these texts, in order.
Plain segments are equal, a parameter takes one segment that is not empty, and a star, which is the
last segment of the template, takes all that is left, which is not empty either. -/
inductive Captures : (template path : List String) → (captured : List (String × String)) → Prop
  | done : Captures [] [] []
  | plain {template path : List String} {captured : List (String × String)} (part : String)
      (hPlain : parameter? part = none) (hLater : Captures template path captured) :
      Captures (part :: template) (part :: path) captured
  | segment {template path : List String} {captured : List (String × String)}
      (name text : String) (hText : text ≠ "") (hLater : Captures template path captured) :
      Captures ((":" ++ name) :: template) (text :: path) ((name, text) :: captured)
  | rest (name segment : String) (path : List String)
      (hText : Text.glue '/' (segment :: path) ≠ "") :
      Captures [("*" ++ name)] (segment :: path) [(name, Text.glue '/' (segment :: path))]

/-- The pairs that are written are those of the captured texts. -/
theorem Captures.parameterPairs_eq {template path : List String}
    {captured : List (String × String)} (hCaptures : Captures template path captured) :
    parameterPairs template path =
      captured.map fun pair => pairText pair.1.toList pair.2 := by
  induction hCaptures with
  | done => rfl
  | plain part hPlain _ ih =>
    have hMark := Route.ne_mark_of_parameter?_eq_none hPlain
    rw [parameterPairs_plain (fun name => (hMark name).1) (fun name => (hMark name).2), ih]
  | segment name text _ _ ih => rw [parameterPairs_colon, ih, List.map_cons]
  | rest name segment path _ => rw [parameterPairs_star, List.map_singleton]

/-- Texts are captured under the names of the parameters, one for each of them. -/
theorem Captures.names_eq {template path : List String} {captured : List (String × String)}
    (hCaptures : Captures template path captured)
    (hMounted : ∀ part ∈ template, Route.mountedSegment part = part) :
    captured.map (·.1) = (template.filterMap parameter?).map (·.name) := by
  induction hCaptures with
  | done => rfl
  | plain part hPlain _ ih =>
    rw [List.filterMap_cons_none hPlain]
    exact ih fun other hOther => hMounted other (List.mem_cons_of_mem _ hOther)
  | segment name text _ _ ih =>
    have hRead := Route.parameter?_colon name
    have hName := Route.name_eq_of_mounted (hMounted _ List.mem_cons_self) hRead rfl
    rw [List.filterMap_cons_some hRead, List.map_cons, List.map_cons, hName,
      ih fun other hOther => hMounted other (List.mem_cons_of_mem _ hOther)]
  | rest name segment path _ =>
    have hRead := Route.parameter?_star name
    have hName := Route.name_eq_of_mounted (hMounted _ List.mem_cons_self) hRead rfl
    rw [List.filterMap_cons_some hRead, List.filterMap_nil, List.map_singleton,
      List.map_singleton, hName]

/-- Pairs with unmarked names are read one by one. -/
theorem pairs_glue_pairTexts {captured : List (String × String)}
    (hNames : ∀ pair ∈ captured, IsUnmarkedName pair.1) :
    Http.pairs (Text.glue '&' (captured.map fun pair => pairText pair.1.toList pair.2)) =
      captured.map fun pair => (pair.1, percentDecoded pair.2) := by
  rw [Http.pairs_glue, List.flatMap_map, List.map_eq_flatMap]
  exact List.flatMap_congr fun pair hPair => pairs_pairText (hNames pair hPair) pair.2

/-- **What a path gives to its parameters is read back from its query string, in order.**  There is
one pair for each parameter of the route, with the name of the parameter and what the captured text
stands for. -/
theorem captured_parameters_are_read_back {route path : String}
    {captured : List (String × String)}
    (hCaptures : Captures (segments (mounted route)) (segments path) captured)
    (hNames : ∀ parameter ∈ parameters route, IsUnmarkedName parameter.name) :
    captured.map (·.1) = (parameters route).map (·.name) ∧
      Http.pairs (pathParameters (mounted route) path) =
        captured.map fun pair => (pair.1, percentDecoded pair.2) := by
  have hOwn : captured.map (·.1) = (parameters route).map (·.name) := by
    rw [← Route.parameters_mounted route]
    exact hCaptures.names_eq fun _ => Route.mountedSegment_of_mem_segments_mounted
  have hUnmarked : ∀ pair ∈ captured, IsUnmarkedName pair.1 := by
    intro pair hPair
    have hName : pair.1 ∈ (parameters route).map (·.name) := hOwn ▸ List.mem_map_of_mem hPair
    obtain ⟨parameter, hParameter, hEq⟩ := List.mem_map.mp hName
    exact hEq ▸ hNames parameter hParameter
  exact ⟨hOwn, by rw [pathParameters, hCaptures.parameterPairs_eq, pairs_glue_pairTexts hUnmarked]⟩

/-- A plus sign, marks of query strings, an escaped slash and a lone percent sign in a path. -/
theorem sample_captured_parameters_are_read_back :
    Captures (segments (mounted "/files/{owner:alpha}/{*rest?}"))
        (segments "/files/a%20b+c/x&y=%2Fz/100%") [("owner", "a%20b+c"), ("rest", "x&y=%2Fz/100%")] ∧
      (∀ parameter ∈ parameters "/files/{owner:alpha}/{*rest?}",
        IsUnmarkedName parameter.name) ∧
      Http.pairs (pathParameters (mounted "/files/{owner:alpha}/{*rest?}")
        "/files/a%20b+c/x&y=%2Fz/100%") = [("owner", "a b+c"), ("rest", "x&y=/z/100%")] := by
  have hTemplate : segments (mounted "/files/{owner:alpha}/{*rest?}") =
      ["", "files", ":" ++ "owner", "*" ++ "rest"] := by decide +kernel
  have hPath : segments "/files/a%20b+c/x&y=%2Fz/100%" =
      ["", "files", "a%20b+c", "x&y=%2Fz", "100%"] := by decide +kernel
  have hCaptures : Captures (segments (mounted "/files/{owner:alpha}/{*rest?}"))
      (segments "/files/a%20b+c/x&y=%2Fz/100%")
      [("owner", "a%20b+c"), ("rest", "x&y=%2Fz/100%")] := by
    rw [hTemplate, hPath]
    exact .plain "" (by decide) (.plain "files" (by decide)
      (.segment "owner" "a%20b+c" (by decide) (.rest "rest" "x&y=%2Fz" ["100%"] (by decide))))
  have hNames : ∀ parameter ∈ parameters "/files/{owner:alpha}/{*rest?}",
      IsUnmarkedName parameter.name := by decide +kernel
  obtain ⟨-, hPairs⟩ := captured_parameters_are_read_back hCaptures hNames
  exact ⟨hCaptures, hNames, hPairs.trans (by decide +kernel)⟩

end Service
end Switchboard
