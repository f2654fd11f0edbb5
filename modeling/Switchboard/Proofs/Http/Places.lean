import Switchboard.Http.Router
import Mathlib.Data.List.Forall2
import Mathlib.Data.String.Basic

/-!
# The places of routes

Places stand in the order of their paths, and the place of a path holds the targets of the routes
with that path, in the order of the routes (`IsPlaced`).  One more route changes the place of its
own path and no other place.  What a router of these places finds is the target of one of the
routes, to which the method and the path of the request lead (`Router.IsRouteFor`).  Which patterns
can be tried together, and so which places have a router, is not settled here.
-/

namespace Switchboard
namespace Http

/-- The target that was found, if one was found, and whether only the head is wanted. -/
def Routing.found? {α : Type} : Routing α → Option (α × Bool)
  | .found target headOnly => some (target, headOnly)
  | _ => none

theorem Routing.eq_found_of_found? {α : Type} {routing : Routing α} {found : α × Bool}
    (hFound : routing.found? = some found) : routing = .found found.1 found.2 := by
  cases routing with
  | nothing => simp [Routing.found?] at hFound
  | otherMethods methods => simp [Routing.found?] at hFound
  | found target headOnly =>
    obtain rfl := Option.some.inj hFound
    rfl

namespace Router

open Endpoint (Method)

variable {α : Type}

/-- What stands at a path so far. -/
def targetsAt (path : String) (places : List (Place α)) : List (Method × α) :=
  ((places.find? fun place => decide (place.path = path)).map (·.targets)).getD []

theorem targetsAt_eq_nil {path : String} {places : List (Place α)}
    (hFree : ∀ place ∈ places, place.path ≠ path) : targetsAt path places = [] := by
  have hNone : places.find? (fun place => decide (place.path = path)) = none :=
    List.find?_eq_none.mpr fun place hPlace => by simpa using hFree place hPlace
  rw [targetsAt, hNone]
  rfl

theorem targetsAt_cons (path : String) (place : Place α) (rest : List (Place α)) :
    targetsAt path (place :: rest) =
      if place.path = path then place.targets else targetsAt path rest := by
  unfold targetsAt
  by_cases hPath : place.path = path
  · simp [hPath]
  · simp [hPath]

/-- Places in the order of their paths, no two with one path. -/
def IsIncreasing (places : List (Place α)) : Prop :=
  places.Pairwise fun a b => a.path < b.path

/-- One step of placing: the place of the path has one more target, and all others stay. -/
theorem mem_addTarget_iff {places : List (Place α)} (hIncreasing : IsIncreasing places)
    (path : String) (method : Method) (target : α) (place : Place α) :
    place ∈ addTarget path method target places ↔
      (place ∈ places ∧ place.path ≠ path) ∨
        place = ⟨path, targetsAt path places ++ [(method, target)]⟩ := by
  induction places with
  | nil => simp [addTarget, targetsAt]
  | cons first rest ih =>
      obtain ⟨hFirst, hRest⟩ := List.pairwise_cons.mp hIncreasing
      rcases lt_trichotomy path first.path with hLess | rfl | hGreater
      · -- All places come behind the path, so nothing stood there.
        have hBehind : ∀ other ∈ first :: rest, other.path ≠ path := by
          intro other hMem
          rcases List.mem_cons.mp hMem with rfl | hMem
          · exact hLess.ne'
          · exact (hLess.trans (hFirst other hMem)).ne'
        rw [targetsAt_eq_nil hBehind, addTarget, if_neg hLess.ne, if_pos hLess, List.mem_cons,
          List.nil_append]
        constructor
        · rintro (rfl | hPlace)
          · exact Or.inr rfl
          · exact Or.inl ⟨hPlace, hBehind place hPlace⟩
        · rintro (⟨hPlace, -⟩ | rfl)
          · exact Or.inr hPlace
          · exact Or.inl rfl
      · rw [targetsAt_cons, if_pos rfl, addTarget, if_pos rfl, List.mem_cons, List.mem_cons]
        constructor
        · rintro (rfl | hPlace)
          · exact Or.inr rfl
          · exact Or.inl ⟨Or.inr hPlace, (hFirst place hPlace).ne'⟩
        · rintro (⟨rfl | hPlace, hNe⟩ | rfl)
          · exact absurd rfl hNe
          · exact Or.inr hPlace
          · exact Or.inl rfl
      · rw [targetsAt_cons, if_neg hGreater.ne, addTarget, if_neg hGreater.ne',
          if_neg hGreater.asymm, List.mem_cons, List.mem_cons, ih hRest]
        constructor
        · rintro (rfl | ⟨hPlace, hNe⟩ | hNew)
          · exact Or.inl ⟨Or.inl rfl, hGreater.ne⟩
          · exact Or.inl ⟨Or.inr hPlace, hNe⟩
          · exact Or.inr hNew
        · rintro (⟨rfl | hPlace, hNe⟩ | hNew)
          · exact Or.inl rfl
          · exact Or.inr (Or.inl ⟨hPlace, hNe⟩)
          · exact Or.inr (Or.inr hNew)

theorem IsIncreasing.addTarget {places : List (Place α)} (hIncreasing : IsIncreasing places)
    (path : String) (method : Method) (target : α) :
    IsIncreasing (addTarget path method target places) := by
  induction places with
  | nil => exact List.pairwise_singleton _ _
  | cons first rest ih =>
      obtain ⟨hFirst, hRest⟩ := List.pairwise_cons.mp hIncreasing
      rcases lt_trichotomy path first.path with hLess | rfl | hGreater
      · rw [Router.addTarget, if_neg hLess.ne, if_pos hLess]
        refine List.pairwise_cons.mpr ⟨fun other hOther => ?_, hIncreasing⟩
        rcases List.mem_cons.mp hOther with rfl | hOther
        · exact hLess
        · exact hLess.trans (hFirst other hOther)
      · rw [Router.addTarget, if_pos rfl]
        exact List.pairwise_cons.mpr ⟨hFirst, hRest⟩
      · rw [Router.addTarget, if_neg hGreater.ne', if_neg hGreater.asymm]
        refine List.pairwise_cons.mpr ⟨fun other hOther => ?_, ih hRest⟩
        rcases (mem_addTarget_iff hRest _ _ _ _).mp hOther with ⟨hOld, -⟩ | rfl
        · exact hFirst other hOld
        · exact hGreater

/-- In the order of paths, what stands at the path of a place are the targets of that place. -/
theorem IsIncreasing.targetsAt_eq {places : List (Place α)} (hIncreasing : IsIncreasing places)
    {place : Place α} (hPlace : place ∈ places) : targetsAt place.path places = place.targets := by
  induction places with
  | nil => simp at hPlace
  | cons first rest ih =>
      obtain ⟨hFirst, hRest⟩ := List.pairwise_cons.mp hIncreasing
      rw [targetsAt_cons]
      rcases List.mem_cons.mp hPlace with rfl | hPlace
      · exact if_pos rfl
      · rw [if_neg (hFirst place hPlace).ne, ih hRest hPlace]

theorem targetsAt_addTarget_of_ne {path other : String} (hNe : path ≠ other) (method : Method)
    (target : α) (places : List (Place α)) :
    targetsAt other (addTarget path method target places) = targetsAt other places := by
  induction places with
  | nil => rw [addTarget, targetsAt_cons, if_neg hNe]
  | cons first rest ih =>
      unfold addTarget
      split_ifs with hSame hLess
      · rw [targetsAt_cons, targetsAt_cons, if_neg (hSame ▸ hNe), if_neg (hSame ▸ hNe)]
      · rw [targetsAt_cons, if_neg hNe]
      · rw [targetsAt_cons, targetsAt_cons, ih]

/-! ### Placing all routes -/

/-- The targets of the routes with a path, in the order of the routes. -/
def targetsOf (routes : List (String × Method × α)) (path : String) : List (Method × α) :=
  (routes.filter fun route => decide (route.1 = path)).map (·.2)

theorem targetsOf_append_singleton (routes : List (String × Method × α))
    (route : String × Method × α) (path : String) :
    targetsOf (routes ++ [route]) path =
      targetsOf routes path ++ if route.1 = path then [route.2] else [] := by
  unfold targetsOf
  by_cases hPath : route.1 = path
  · simp [hPath]
  · simp [hPath]

/-- Places that hold routes: in the order of their paths, each with the targets of its path. -/
structure IsPlaced (routes : List (String × Method × α)) (places : List (Place α)) : Prop where
  increasing : IsIncreasing places
  targets : ∀ path, targetsAt path places = targetsOf routes path
  path_mem : ∀ place ∈ places, ∃ route ∈ routes, route.1 = place.path

/-- One more route is placed at its own path and nowhere else. -/
theorem IsPlaced.addTarget {routes : List (String × Method × α)} {places : List (Place α)}
    (hPlaced : IsPlaced routes places) (path : String) (method : Method) (target : α) :
    IsPlaced (routes ++ [(path, method, target)]) (addTarget path method target places) := by
  have hMem := mem_addTarget_iff hPlaced.increasing path method target
  have hAfter := hPlaced.increasing.addTarget path method target
  refine ⟨hAfter, ?_, ?_⟩
  · intro other
    -- At its own path the new target comes last; elsewhere nothing is added on either side.
    rw [targetsOf_append_singleton, ← hPlaced.targets]
    by_cases hPath : path = other
    · subst hPath
      rw [if_pos rfl]
      exact hAfter.targetsAt_eq ((hMem _).mpr (Or.inr rfl))
    · rw [if_neg hPath, List.append_nil, targetsAt_addTarget_of_ne hPath]
  · intro place hPlace
    rcases (hMem place).mp hPlace with ⟨hOld, -⟩ | rfl
    · obtain ⟨route, hRoute, hPath⟩ := hPlaced.path_mem place hOld
      exact ⟨route, List.mem_append_left _ hRoute, hPath⟩
    · exact ⟨(path, method, target), by simp, rfl⟩

/-- Placing routes one by one puts each at its own path. -/
theorem isPlaced_foldl (routes : List (String × Method × α)) {before : List (String × Method × α)}
    {places : List (Place α)} (hPlaced : IsPlaced before places) :
    IsPlaced (before ++ routes) (routes.foldl
      (fun places (path, method, target) => addTarget path method target places) places) := by
  induction routes generalizing before places with
  | nil => simpa using hPlaced
  | cons route rest ih =>
      obtain ⟨path, method, target⟩ := route
      simpa using ih (hPlaced.addTarget path method target)

theorem isPlaced_placesOf (routes : List (String × Method × α)) :
    IsPlaced routes (placesOf routes) := by
  have hNone : IsPlaced ([] : List (String × Method × α)) [] :=
    ⟨List.Pairwise.nil, fun _ => rfl, by simp⟩
  exact isPlaced_foldl routes hNone

theorem targets_of_mem_placesOf {routes : List (String × Method × α)} {place : Place α}
    (hPlace : place ∈ placesOf routes) : place.targets = targetsOf routes place.path := by
  have hPlaced := isPlaced_placesOf routes
  rw [← hPlaced.targets, hPlaced.increasing.targetsAt_eq hPlace]

/-- Each route has a place. -/
theorem exists_mem_placesOf {routes : List (String × Method × α)} {route : String × Method × α}
    (hRoute : route ∈ routes) : ∃ place ∈ placesOf routes, place.path = route.1 := by
  by_contra hNone
  have hFree : ∀ place ∈ placesOf routes, place.path ≠ route.1 :=
    fun place hPlace hPath => hNone ⟨place, hPlace, hPath⟩
  -- The target of the route would stand at its path.
  have hTargets : targetsOf routes route.1 = [] := by
    rw [← (isPlaced_placesOf routes).targets, targetsAt_eq_nil hFree]
  rw [targetsOf, List.map_eq_nil_iff, List.filter_eq_nil_iff] at hTargets
  exact hTargets route hRoute (decide_eq_true rfl)

/-- No place has a method twice if no two routes have one path and one method. -/
theorem nodup_methods {routes : List (String × Method × α)}
    (hApart : routes.Pairwise fun a b => a.1 = b.1 → a.2.1 ≠ b.2.1) {place : Place α}
    (hPlace : place ∈ placesOf routes) : (place.targets.map (·.1)).Nodup := by
  rw [targets_of_mem_placesOf hPlace, targetsOf, List.map_map, List.Nodup, List.pairwise_map]
  refine (hApart.filter _).imp_of_mem fun {a b} ha hb hNe => ?_
  have hPath : ∀ route ∈ routes.filter fun route => decide (route.1 = place.path),
      route.1 = place.path := fun route h => of_decide_eq_true (List.mem_filter.mp h).2
  exact hNe ((hPath a ha).trans (hPath b hb).symm)

theorem mapM_eq_some_iff {β γ : Type} (f : β → Option γ) (values : List β) (results : List γ) :
    values.mapM f = some results ↔
      List.Forall₂ (fun value result => f value = some result) values results := by
  induction values generalizing results with
  | nil => simp [eq_comm]
  | cons value rest ih =>
      rw [List.mapM_cons, List.forall₂_cons_left_iff]
      constructor
      · intro hAll
        obtain ⟨result, hResult, hRest⟩ := Option.bind_eq_some_iff.mp hAll
        obtain ⟨others, hOthers, hSame⟩ := Option.bind_eq_some_iff.mp hRest
        exact ⟨result, others, hResult, (ih others).mp hOthers, (Option.some.inj hSame).symm⟩
      · rintro ⟨result, others, hResult, hOthers, rfl⟩
        simp [hResult, (ih others).mpr hOthers]

/-- The only results that values can have are the results of all of them. -/
theorem forall₂_eq_some_iff {β γ : Type} {f : β → Option γ} {g : β → γ} {values : List β}
    (hOnly : ∀ value ∈ values, ∀ result, f value = some result → result = g value)
    (results : List γ) :
    List.Forall₂ (fun value result => f value = some result) values results ↔
      (∀ value ∈ values, f value = some (g value)) ∧ results = values.map g := by
  induction values generalizing results with
  | nil => simp
  | cons value values ih =>
    have hRest := ih fun other h => hOnly other (List.mem_cons_of_mem _ h)
    rw [List.forall₂_cons_left_iff, List.forall_mem_cons, List.map_cons]
    constructor
    · rintro ⟨result, others, hResult, hOthers, rfl⟩
      obtain ⟨hAll, rfl⟩ := (hRest others).mp hOthers
      have hSame := hOnly value List.mem_cons_self result hResult
      exact ⟨⟨hSame ▸ hResult, hAll⟩, by rw [hSame]⟩
    · rintro ⟨⟨hResult, hAll⟩, rfl⟩
      exact ⟨_, _, hResult, (hRest _).mpr ⟨hAll, rfl⟩, rfl⟩

/-- The places of a router are those of its routes, each with the pattern of its path. -/
theorem of_mem_places {routes : List (String × Method × α)} {router : Router α}
    (hRouter : build? routes = some router) {pair : Pattern × Place α}
    (hPair : pair ∈ router.places) :
    pair.2 ∈ placesOf routes ∧ Pattern.ofPath? pair.2.path = some pair.1 := by
  simp only [build?] at hRouter
  split at hRouter
  · cases hRouter
  · rename_i patterns hPatterns
    split_ifs at hRouter
    obtain rfl := Option.some.inj hRouter
    refine ⟨(List.of_mem_zip hPair).2, ?_⟩
    have hEach := ((mapM_eq_some_iff _ _ _).mp hPatterns).flip
    exact (List.forall₂_iff_zip.mp hEach).2 hPair

/-- Routes have a router exactly if their paths have patterns that can be tried together and no path
has a method twice. -/
theorem exists_build?_eq_some_iff (routes : List (String × Method × α)) :
    (∃ router, build? routes = some router) ↔
      ∃ patterns, List.Forall₂ (fun place pattern => Pattern.ofPath? place.path = some pattern)
          (placesOf routes) patterns ∧
        Pattern.allFit [] patterns = true ∧
          ∀ place ∈ placesOf routes, (place.targets.map (·.1)).Nodup := by
  simp only [build?, ← mapM_eq_some_iff]
  cases hPatterns : (placesOf routes).mapM fun place => Pattern.ofPath? place.path with
  | none => simp
  | some patterns => simp

/-- A route to which a method and a path lead.  Who wants the head alone is led where a request to
get the path would be. -/
structure IsRouteFor (route : String × Method × α) (method path : String) (headOnly : Bool) :
    Prop where
  head_iff : headOnly = true ↔ method = "HEAD"
  method_eq : route.2.1.name = if headOnly then Method.get.name else method
  fits : ∃ pattern, Pattern.ofPath? route.1 = some pattern ∧
    pattern.matchesPath path.toList = true

/-- What a router finds is the target of one of its routes, and the method and the path lead to that
route. -/
theorem exists_isRouteFor_of_route_eq_found {routes : List (String × Method × α)}
    {router : Router α} (hRouter : build? routes = some router) {method path : String} {target : α}
    {headOnly : Bool} (hRoute : router.route method path = .found target headOnly) :
    ∃ route ∈ routes, route.2.2 = target ∧ IsRouteFor route method path headOnly := by
  simp only [route] at hRoute
  split at hRoute
  · cases hRoute
  · rename_i place hPlace
    obtain ⟨pair, hPair, rfl⟩ := Option.map_eq_some_iff.mp hPlace
    obtain ⟨hIn, hMatches⟩ := List.mem_filter.mp (List.mem_of_find?_eq_some hPair)
    obtain ⟨hPlaced, hPattern⟩ := of_mem_places hRouter hIn
    split at hRoute
    · rename_i own found hFound
      obtain ⟨rfl, rfl⟩ := Routing.found.inj hRoute
      have hTarget := List.mem_of_find?_eq_some hFound
      rw [targets_of_mem_placesOf hPlaced, targetsOf] at hTarget
      obtain ⟨route, hRouteIn, hSame⟩ := List.mem_map.mp hTarget
      obtain ⟨hMem, hPath⟩ := List.mem_filter.mp hRouteIn
      have hName := List.find?_some hFound
      refine ⟨route, hMem, congrArg Prod.snd hSame, ⟨beq_iff_eq, ?_, pair.1, ?_, hMatches⟩⟩
      · rw [hSame]
        exact eq_of_beq hName
      · rw [of_decide_eq_true hPath, hPattern]
    · cases hRoute

/-- Who wants the head alone is led where a request to get the path is led. -/
theorem route_head_of_get {router : Router α} {path : String} {target : α}
    (hGet : router.route "GET" path = .found target false) :
    router.route "HEAD" path = .found target true := by
  have hWanted : ("GET" == "HEAD") = false := by decide
  simp only [route, hWanted, beq_self_eq_true, if_true, Bool.false_eq_true, if_false] at hGet ⊢
  split at hGet
  · cases hGet
  · rename_i place hPlace
    split at hGet
    · rename_i own found hFound
      obtain ⟨rfl, -⟩ := Routing.found.inj hGet
      have hSame : place.targets.find? (·.1.name == Method.get.name) = some (own, found) := hFound
      simp only [hSame]
    · cases hGet

end Router
end Http
end Switchboard
