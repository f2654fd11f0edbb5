import Switchboard.Proofs.Http.Places
import Switchboard.Proofs.Service.Assembly
import Mathlib.Data.List.Pairwise

/-!
# The routes of compiled endpoints

The compiler compares shapes, from which the names of parameters are erased, and a router compares
mounted paths, in which the names are kept.  For entries that are apart the two agree: their shapes
are equal exactly if their mounted paths are.  So a router never meets two endpoints with one method
at one path, and no two of its paths differ in the names of their parameters only.  Whether the
patterns of different shapes can be tried together is not settled here.
-/

namespace Switchboard

open Catalogue (Apart Entry compile exists_of_compile_eq_ok)
open Dispatch (Provider)
open Endpoint (Method)
open Http.Router (isPlaced_placesOf placesOf targetsOf targets_of_mem_placesOf)

namespace Catalogue

/-- The shapes of entries that are apart tell their paths apart as well as their mounted paths do.
-/
theorem Apart.shape_eq_iff_mounted_eq {a b : Entry} (hApart : Apart a b) :
    Route.shape a.route.path = Route.shape b.route.path ↔
      Route.mounted a.route.path = Route.mounted b.route.path :=
  hApart.alike.mounted_eq_iff_shape_eq.symm

theorem Apart.method_ne_of_mounted_eq {a b : Entry} (hApart : Apart a b)
    (hMounted : Route.mounted a.route.path = Route.mounted b.route.path) :
    a.route.method ≠ b.route.method := by
  intro hMethod
  apply hApart.route
  rw [hMethod, Route.shape_eq_of_mounted_eq hMounted]

/-- Entries whose shapes and mounted paths tell them apart alike, and of which no two share a method
at one mounted path. -/
structure RoutesAgree (entries : List Entry) : Prop where
  shape_iff : ∀ a ∈ entries, ∀ b ∈ entries,
    Route.shape a.route.path = Route.shape b.route.path ↔
      Route.mounted a.route.path = Route.mounted b.route.path
  method_ne : entries.Pairwise fun a b =>
    Route.mounted a.route.path = Route.mounted b.route.path → a.route.method ≠ b.route.method

theorem routesAgree_of_pairwise {entries : List Entry} (hApart : entries.Pairwise Apart) :
    RoutesAgree entries := by
  refine ⟨?_, hApart.imp fun h => h.method_ne_of_mounted_eq⟩
  intro a ha b hb
  by_cases hSame : a = b
  · simp [hSame]
  · have hSymm : Std.Symm Apart := ⟨fun _ _ => Apart.symm⟩
    exact (hApart.forall ha hb hSame).shape_eq_iff_mounted_eq

end Catalogue

namespace Service

variable {σ κ ρ ι : Type} {routePrefix : String} {endpoints : List (Endpoint σ ρ ι)}
  {service : Service σ κ ρ ι} {pairs : List (Entry × Endpoint σ ρ ι)}

/-- One of the routes comes to a place that has its method already. -/
def SharesMethod {α : Type} (routes : List (String × Method × α)) : Prop :=
  ∃ before route after, routes = before ++ route :: after ∧
    ∃ place ∈ placesOf before, place.path = route.1 ∧ route.2.1 ∈ place.targets.map (·.1)

/-- Routes of which no two have one path and one method. -/
theorem not_sharesMethod {α : Type} {routes : List (String × Method × α)}
    (hApart : routes.Pairwise fun a b => a.1 = b.1 → a.2.1 ≠ b.2.1) : ¬ SharesMethod routes := by
  rintro ⟨before, route, after, rfl, place, hPlace, hPath, hMethod⟩
  -- The method came to the place with an earlier route of the same path.
  rw [targets_of_mem_placesOf hPlace, targetsOf, List.map_map] at hMethod
  obtain ⟨earlier, hEarlier, hSame⟩ := List.mem_map.mp hMethod
  obtain ⟨hMem, hAt⟩ := List.mem_filter.mp hEarlier
  obtain ⟨-, -, hBefore⟩ := List.pairwise_append.mp hApart
  apply hBefore earlier hMem route (by simp)
  · rw [of_decide_eq_true hAt, hPath]
  · exact hSame

/-- No two routes of a service have one mounted path and one method. -/
theorem IsPaired.methods_ne (hPaired : IsPaired routePrefix endpoints service pairs) :
    (service.mounts.map Mount.routed).Pairwise fun a b => a.1 = b.1 → a.2.1 ≠ b.2.1 := by
  rw [hPaired.mounts, List.map_map, List.pairwise_map]
  exact hPaired.apart.imp fun h => h.method_ne_of_mounted_eq

theorem IsPaired.not_sharesMethod
    (hPaired : IsPaired routePrefix endpoints service pairs) :
    ¬ SharesMethod (service.mounts.map Mount.routed) :=
  Service.not_sharesMethod hPaired.methods_ne

theorem IsPaired.exists_mounted_eq
    (hPaired : IsPaired routePrefix endpoints service pairs)
    {place : Http.Place (Mount ρ)} (hPlace : place ∈ placesOf (service.mounts.map Mount.routed)) :
    ∃ entry ∈ service.catalogue.entries, Route.mounted entry.route.path = place.path := by
  obtain ⟨route, hRoute, hPath⟩ := (isPlaced_placesOf _).path_mem place hPlace
  obtain ⟨mount, hMount, rfl⟩ := List.mem_map.mp hRoute
  rw [hPaired.mounts] at hMount
  obtain ⟨pair, hPair, rfl⟩ := List.mem_map.mp hMount
  refine ⟨pair.1, ?_, hPath⟩
  rw [← hPaired.entries]
  exact List.mem_map_of_mem hPair

theorem IsPaired.shapes_ne
    (hPaired : IsPaired routePrefix endpoints service pairs) :
    (placesOf (service.mounts.map Mount.routed)).Pairwise fun p q =>
      Route.shape p.path ≠ Route.shape q.path := by
  have hApart : service.catalogue.entries.Pairwise Apart := by
    rw [← hPaired.entries, List.pairwise_map]
    exact hPaired.apart
  have hAgree := Catalogue.routesAgree_of_pairwise hApart
  refine (isPlaced_placesOf _).increasing.imp_of_mem fun {p q} hp hq hLess hShape => ?_
  obtain ⟨a, ha, hMounted⟩ := hPaired.exists_mounted_eq hp
  obtain ⟨b, hb, hOther⟩ := hPaired.exists_mounted_eq hq
  -- Mounting keeps the shape, so two places of one shape are two paths of one shape.
  rw [← hMounted, ← hOther, Route.shape_mounted, Route.shape_mounted,
    hAgree.shape_iff a ha b hb, hMounted, hOther] at hShape
  exact hLess.ne hShape

/-- The compiler and the router agree on which endpoints go together.  Compiled paths have one shape
exactly if they have one mounted form, and then their methods differ.  Hence no place of a service's
router gets one method twice, and no two of its paths differ in the names of their parameters
only. -/
theorem routes_agree_with_shapes :
    (∀ routePrefix ds catalogue, compile routePrefix ds = .ok catalogue →
        Catalogue.RoutesAgree catalogue.entries) ∧
      ∀ routePrefix (provider : Provider σ κ ι) isCancelled (endpoints : List (Endpoint σ ρ ι))
        service, assemble routePrefix provider isCancelled endpoints = .ok service →
          ¬ SharesMethod (service.mounts.map Mount.routed) ∧
            (placesOf (service.mounts.map Mount.routed)).Pairwise fun p q =>
              Route.shape p.path ≠ Route.shape q.path := by
  constructor
  · intro routePrefix ds catalogue hCompile
    obtain ⟨-, -, -, -, hApart⟩ := exists_of_compile_eq_ok hCompile
    exact Catalogue.routesAgree_of_pairwise hApart
  · intro routePrefix provider isCancelled endpoints service hService
    obtain ⟨pairs, hPaired⟩ := exists_isPaired hService
    exact ⟨hPaired.not_sharesMethod, hPaired.shapes_ne⟩

/-- The query and the command for orders share a path, and their methods keep them apart. -/
theorem sample_routes_agree_with_shapes :
    (∃ catalogue, compile "/api" Catalogue.sampleDeclarations = .ok catalogue ∧
        Catalogue.RoutesAgree catalogue.entries) ∧
      ∃ service, assemble "/api" sampleProvider Sample.State.isCancelled sampleEndpoints =
          .ok service ∧
        ¬ SharesMethod (service.mounts.map Mount.routed) ∧
          (placesOf (service.mounts.map Mount.routed)).Pairwise fun p q =>
            Route.shape p.path ≠ Route.shape q.path := by
  obtain ⟨service, hService⟩ := exists_assemble_sampleEndpoints
  obtain ⟨hCompiled, hAssembled⟩ := routes_agree_with_shapes
  exact ⟨⟨_, Catalogue.compile_sampleDeclarations,
      hCompiled _ _ _ Catalogue.compile_sampleDeclarations⟩,
    service, hService, hAssembled _ _ _ _ service hService⟩

end Service
end Switchboard
