import Switchboard.Proofs.Catalogue.Grouping
import Switchboard.Proofs.Route.Slashes
import Switchboard.Proofs.Text.Kebab

/-!
# Where endpoints are found

The path of an entry is joined from the prefix, the controller in kebab case and the action.  It
starts with one slash and never ends with one unless it is the root, but empty segments inside these
parts stay in it: the path is in normal form exactly if none of its parts has a gap, and it is entries
without gaps that have one path where they say the same (`compiled_paths_are_rooted`).

The action is left out for conventional names.  It is the empty text for names of separators only,
which kebab case leaves nothing of.
-/

namespace Switchboard
namespace Catalogue

open Endpoint (Declaration)

/-- The texts from which the path of an entry is joined. -/
def Entry.pathParts (routePrefix : String) (entry : Entry) : List String :=
  [routePrefix, entry.route.controllerRoute, entry.route.action.getD ""]

/-- No part of the path has an empty segment inside. -/
def Entry.IsSolid (routePrefix : String) (entry : Entry) : Prop :=
  ∀ part ∈ entry.pathParts routePrefix, ¬ Route.HasGap part

instance (routePrefix : String) (entry : Entry) : Decidable (entry.IsSolid routePrefix) :=
  inferInstanceAs (Decidable (∀ part ∈ entry.pathParts routePrefix, ¬ Route.HasGap part))

/-- A declaration that names no route: it has none, or one of slashes between blanks. -/
def NamesNoRoute (d : Declaration) : Prop :=
  ∀ route ∈ d.route, ∀ c ∈ (Text.trim route).toList, c = '/'

/-- Where an entry is found that was made from a declaration. -/
structure IsLocated (routePrefix : String) (d : Declaration) (entry : Entry) : Prop where
  rooted : Route.IsRooted entry.route.path
  normal_iff : Route.IsNormal entry.route.path ↔ entry.IsSolid routePrefix
  /-- Conventional names add nothing to the path. -/
  action_eq_none_iff : entry.route.action = none ↔
    NamesNoRoute d ∧ d.name ∈ Endpoint.conventionalNames
  /-- Kebab case leaves nothing of a name of separators. -/
  action_eq_empty_iff : entry.route.action = some "" ↔
    NamesNoRoute d ∧ ∀ c ∈ d.name.toList, Text.isSeparator c = true

/-! ### Actions -/

/-- The route that a declaration names. -/
def routeNamed? (d : Declaration) : Option String :=
  (d.route.map fun route => Text.trimBy (· == '/') (Text.trim route)).filter (!·.isEmpty)

theorem routeNamed?_eq_none_iff (d : Declaration) : routeNamed? d = none ↔ NamesNoRoute d := by
  have hTrim : ∀ s : String, Text.trimBy (· == '/') s = "" ↔ ∀ c ∈ s.toList, c = '/' := by
    intro s
    rw [← String.toList_inj, Text.trimBy, String.toList_ofList, String.toList_empty,
      Text.trimWhile_eq_nil_iff]
    simp
  cases hRoute : d.route with
  | none => simp [routeNamed?, NamesNoRoute, hRoute]
  | some route =>
      have hNames : NamesNoRoute d ↔ ∀ c ∈ (Text.trim route).toList, c = '/' := by
        simp [NamesNoRoute, hRoute]
      rw [hNames, ← hTrim]
      simp [routeNamed?, hRoute, Option.filter_some]

theorem ne_empty_of_routeNamed? {d : Declaration} {route : String}
    (hRoute : routeNamed? d = some route) : route ≠ "" := by
  have hNe := (Option.filter_eq_some_iff.mp hRoute).2
  rintro rfl
  exact nomatch hNe

theorem actionOf_eq (d : Declaration) :
    actionOf d = match routeNamed? d with
      | some route => some route
      | none => if Endpoint.isConventional d.name then none else some (Text.kebab d.name) :=
  rfl

theorem isConventional_iff (name : String) :
    Endpoint.isConventional name = true ↔ name ∈ Endpoint.conventionalNames := by
  rw [Endpoint.isConventional, List.contains_iff_mem]

theorem actionOf_eq_none_iff (d : Declaration) :
    actionOf d = none ↔ NamesNoRoute d ∧ d.name ∈ Endpoint.conventionalNames := by
  rw [← routeNamed?_eq_none_iff, ← isConventional_iff, actionOf_eq]
  cases routeNamed? d with
  | none => simp
  | some route => simp

theorem actionOf_eq_empty_iff (d : Declaration) :
    actionOf d = some "" ↔ NamesNoRoute d ∧ ∀ c ∈ d.name.toList, Text.isSeparator c = true := by
  rw [← routeNamed?_eq_none_iff, ← Text.kebab_eq_empty_iff, actionOf_eq]
  cases hRoute : routeNamed? d with
  | none =>
      dsimp only
      split_ifs with hConventional
      · -- No conventional name is made of separators.
        have hLetters : ∀ name ∈ Endpoint.conventionalNames, Text.kebab name ≠ "" := by
          decide +kernel
        simpa using hLetters d.name ((isConventional_iff d.name).mp hConventional)
      · simp
  | some route => simp [ne_empty_of_routeNamed? hRoute]

/-! ### Paths -/

theorem path_of_entryOf_eq_ok {routePrefix : String} {d : Declaration} {entry : Entry}
    (hEntry : entryOf routePrefix d = .ok entry) :
    entry.route.path = Route.joined (entry.pathParts routePrefix) ∧
      entry.route.action = actionOf d := by
  obtain ⟨-, parts, -, rfl⟩ := (entryOf_eq_ok_iff routePrefix d entry).mp hEntry
  exact ⟨rfl, rfl⟩

theorem isLocated_of_entryOf_eq_ok {routePrefix : String} {d : Declaration} {entry : Entry}
    (hEntry : entryOf routePrefix d = .ok entry) : IsLocated routePrefix d entry := by
  obtain ⟨hPath, hAction⟩ := path_of_entryOf_eq_ok hEntry
  exact {
    rooted := hPath ▸ Route.isRooted_joined _
    normal_iff := hPath ▸ Route.isNormal_joined_iff _
    action_eq_none_iff := hAction ▸ actionOf_eq_none_iff d
    action_eq_empty_iff := hAction ▸ actionOf_eq_empty_iff d }

/-- **Where endpoints are found.**  Every path starts with one slash and ends with one only if it is
the root, and it is in normal form exactly if the prefix, the controller and the action have no empty
segments inside.  Entries of this kind have one path exactly if they say the same apart from empty
segments, and no two that say the same have one method.  An action is missing for conventional names
and empty only for names of separators. -/
theorem compiled_paths_are_rooted {routePrefix : String} {ds : List Declaration}
    {catalogue : Catalogue} (hCompile : compile routePrefix ds = .ok catalogue) :
    (∀ entry ∈ catalogue.entries, ∃ d ∈ ds,
      entryOf routePrefix d = .ok entry ∧ IsLocated routePrefix d entry) ∧
      catalogue.entries.Pairwise fun a b => a.IsSolid routePrefix → b.IsSolid routePrefix →
        (a.route.path = b.route.path ↔ Route.solidSegments (a.pathParts routePrefix) =
          Route.solidSegments (b.pathParts routePrefix)) ∧
        (a.route.method = b.route.method → Route.solidSegments (a.pathParts routePrefix) ≠
          Route.solidSegments (b.pathParts routePrefix)) := by
  obtain ⟨-, -, -, -, hApart⟩ := exists_of_compile_eq_ok hCompile
  refine ⟨fun entry hMem => ?_, hApart.imp_of_mem fun {a b} ha hb hApart hSolid hOther => ?_⟩
  · obtain ⟨d, hd, hEntry⟩ := exists_declaration_of_mem_entries hCompile hMem
    exact ⟨d, hd, hEntry, isLocated_of_entryOf_eq_ok hEntry⟩
  · obtain ⟨d, -, hFirst⟩ := exists_declaration_of_mem_entries hCompile ha
    obtain ⟨e, -, hSecond⟩ := exists_declaration_of_mem_entries hCompile hb
    have hPaths : a.route.path = b.route.path ↔ Route.solidSegments (a.pathParts routePrefix) =
        Route.solidSegments (b.pathParts routePrefix) := by
      rw [(path_of_entryOf_eq_ok hFirst).1, (path_of_entryOf_eq_ok hSecond).1]
      exact Route.joined_eq_iff_of_no_gap hSolid hOther
    refine ⟨hPaths, fun hMethod hSame => hApart.route ?_⟩
    rw [hMethod, hPaths.mpr hSame]

/-! ### Paths with gaps -/

/-- No part of these paths has a gap, so all of them are in normal form. -/
theorem sample_paths_are_rooted :
    ∃ catalogue, compile "/api" sampleDeclarations = .ok catalogue ∧
      ∀ entry ∈ catalogue.entries, entry.IsSolid "/api" ∧ Route.IsNormal entry.route.path := by
  refine ⟨_, compile_sampleDeclarations, fun entry hEntry => ?_⟩
  have hSolid : ∀ entry ∈ (ofEntries (compileEach "/api" sampleDeclarations).2).entries,
      entry.IsSolid "/api" := by
    decide +kernel
  obtain ⟨d, -, -, hLocated⟩ := (compiled_paths_are_rooted compile_sampleDeclarations).1 entry hEntry
  exact ⟨hSolid entry hEntry, hLocated.normal_iff.mpr (hSolid entry hEntry)⟩

/-- A query for orders below a route of its own, or below none. -/
def listOrders (name : String) (route : Option String) : Declaration :=
  { ((Declaration.bare "app::Orders" name .get).withQuery ⟨some name, false⟩).withHandler
      ⟨[], some "Vec<Order>"⟩ with route := route }

/-- Two routes that differ in an empty segment only, and a name of separators. -/
def gappedDeclarations : List Declaration :=
  [listOrders "Open" (some "lines//open"), listOrders "Still" (some "lines/open"),
    listOrders "_" none]

/-- The empty segment stays in the first path, which is therefore not seen as the second one, and the
last entry has an empty action. -/
theorem sample_empty_segment_stays :
    ∃ catalogue, compile "" gappedDeclarations = .ok catalogue ∧
      catalogue.entries.map (fun entry => (entry.route.method, entry.route.path)) =
        [(.get, "/orders/lines//open"), (.get, "/orders/lines/open"), (.get, "/orders")] ∧
      catalogue.entries.map (·.route.action) =
        [some "lines//open", some "lines/open", some ""] ∧
      ¬ Route.IsNormal "/orders/lines//open" ∧
      Route.solidSegments ["", "orders", "lines//open"] =
        Route.solidSegments ["", "orders", "lines/open"] := by
  have hCompile : compile "" gappedDeclarations =
      .ok (ofEntries (compileEach "" gappedDeclarations).2) := by decide +kernel
  refine ⟨_, hCompile, by decide +kernel, by decide +kernel, fun hNormal => ?_, by decide +kernel⟩
  have hSegments : "" ∈ (Route.segments "/orders/lines//open").tail := by decide +kernel
  exact hNormal.solid.elim (by decide) (fun hSolid => hSolid hSegments)

end Catalogue
end Switchboard
