import Switchboard.Dispatch.Registry
import Mathlib.Data.List.Nodup

/-!
# Handlers in a registry

A registry is made of handlers exactly if no two of them take the same type of request, and then it
holds all of them in their order; otherwise the first handler whose type was taken before it is
refused.  In a registry that is made, the handler that is found for a type is the one handler that
takes it.  If registering goes on after a handler was refused, the handler that is found for a type
is the first that was registered for it.
-/

namespace Switchboard
namespace Dispatch
namespace Registry

variable {σ ρ ι : Type}

theorem contains_iff (registry : Registry σ ρ ι) (request : String) :
    registry.contains request = true ↔
      ∃ handler ∈ registry.handlers, handler.request.name = request := by
  simp [contains, find?, List.find?_isSome]

theorem register_eq_ok_iff (registry after : Registry σ ρ ι) (handler : Handler σ ρ ι) :
    registry.register handler = .ok after ↔
      (∀ other ∈ registry.handlers, other.request.name ≠ handler.request.name) ∧
        after = ⟨registry.handlers ++ [handler]⟩ := by
  unfold register
  by_cases hTaken : registry.contains handler.request.name = true
  · obtain ⟨other, hOther, hSame⟩ := (contains_iff _ _).mp hTaken
    simp only [hTaken, if_true, reduceCtorEq, false_iff]
    rintro ⟨hFree, -⟩
    exact hFree other hOther hSame
  · have hFree : ∀ other ∈ registry.handlers, other.request.name ≠ handler.request.name :=
      fun other hOther hSame => hTaken ((contains_iff _ _).mpr ⟨other, hOther, hSame⟩)
    rw [if_neg hTaken]
    constructor
    · rintro ⟨⟩
      exact ⟨hFree, rfl⟩
    · rintro ⟨-, rfl⟩
      rfl

/-- Registering handlers one by one keeps those that were there, and adds all of them if they take
different types and none that was taken. -/
theorem foldlM_register_eq_ok_iff (handlers : List (Handler σ ρ ι))
    (registry after : Registry σ ρ ι) :
    handlers.foldlM register registry = .ok after ↔
      (∀ handler ∈ handlers, ∀ other ∈ registry.handlers,
        other.request.name ≠ handler.request.name) ∧
      (handlers.map (·.request.name)).Nodup ∧
        after = ⟨registry.handlers ++ handlers⟩ := by
  induction handlers generalizing registry with
  | nil =>
      simp only [List.foldlM_nil, List.not_mem_nil, false_implies, implies_true, List.map_nil,
        List.nodup_nil, List.append_nil, true_and]
      exact ⟨fun hOk => (Except.ok.inj hOk).symm, fun hEq => by rw [hEq]; rfl⟩
  | cons handler rest ih =>
      have hStep : (handler :: rest).foldlM register registry = .ok after ↔
          ∃ middle, registry.register handler = .ok middle ∧
            rest.foldlM register middle = .ok after := by
        rw [List.foldlM_cons]
        cases registry.register handler with
        | error fault => simp [bind, Except.bind]
        | ok middle => simp [bind, Except.bind]
      rw [hStep, List.map_cons, List.nodup_cons]
      constructor
      · rintro ⟨middle, hMiddle, hRest⟩
        obtain ⟨hFree, rfl⟩ := (register_eq_ok_iff _ _ _).mp hMiddle
        obtain ⟨hApart, hNodup, hAfter⟩ := (ih _).mp hRest
        refine ⟨?_, ⟨?_, hNodup⟩, by simpa using hAfter⟩
        · intro other hOther
          rcases List.mem_cons.mp hOther with rfl | hOther
          · exact hFree
          · exact fun old hOld => hApart other hOther old (List.mem_append_left _ hOld)
        · intro hMem
          obtain ⟨other, hOther, hSame⟩ := List.mem_map.mp hMem
          exact hApart other hOther handler (by simp) hSame.symm
      · rintro ⟨hApart, ⟨hNew, hNodup⟩, hAfter⟩
        -- The types taken for the rest are those taken before and the type of the first handler.
        refine ⟨⟨registry.handlers ++ [handler]⟩, (register_eq_ok_iff _ _ _).mpr
          ⟨hApart handler (by simp), rfl⟩, (ih _).mpr ⟨?_, hNodup, by simpa using hAfter⟩⟩
        intro other hOther old hOld
        rcases List.mem_append.mp hOld with hOld | hOld
        · exact hApart other (List.mem_cons_of_mem _ hOther) old hOld
        · rw [List.mem_singleton.mp hOld]
          exact fun hSame => hNew (List.mem_map.mpr ⟨other, hOther, hSame.symm⟩)

/-- Handlers make a registry exactly if they take different types of request, and the registry holds
all of them. -/
theorem ofHandlers_eq_ok_iff (handlers : List (Handler σ ρ ι)) (registry : Registry σ ρ ι) :
    ofHandlers handlers = .ok registry ↔
      (handlers.map (·.request.name)).Nodup ∧ registry = ⟨handlers⟩ := by
  rw [ofHandlers, foldlM_register_eq_ok_iff]
  simp [empty]

/-- A handler is refused exactly if its type was taken before. -/
theorem register_eq_error_iff (registry : Registry σ ρ ι) (handler : Handler σ ρ ι)
    (fault : DuplicateHandler) :
    registry.register handler = .error fault ↔
      handler.request.name ∈ registry.handlers.map (·.request.name) ∧
        fault = ⟨handler.request.name⟩ := by
  rw [List.mem_map, ← contains_iff, register]
  by_cases hTaken : registry.contains handler.request.name = true
  · simp [hTaken, eq_comm]
  · simp [hTaken]

/-- Registering handlers one by one stops at the first whose type was taken before. -/
theorem foldlM_register_eq_error_iff (handlers : List (Handler σ ρ ι)) {registry : Registry σ ρ ι}
    (hNodup : (registry.handlers.map (·.request.name)).Nodup) (fault : DuplicateHandler) :
    handlers.foldlM register registry = .error fault ↔
      ∃ before handler after, handlers = before ++ handler :: after ∧
        ((registry.handlers ++ before).map (·.request.name)).Nodup ∧
        handler.request.name ∈ (registry.handlers ++ before).map (·.request.name) ∧
        fault = ⟨handler.request.name⟩ := by
  induction handlers generalizing registry with
  | nil => exact ⟨nofun, by simp⟩
  | cons first rest ih =>
      rw [List.foldlM_cons]
      by_cases hTaken : first.request.name ∈ registry.handlers.map (·.request.name)
      · rw [(register_eq_error_iff registry first _).mpr ⟨hTaken, rfl⟩]
        constructor
        · rintro ⟨⟩
          exact ⟨[], first, rest, rfl, by simpa using hNodup, by simpa using hTaken, rfl⟩
        · rintro ⟨before, handler, after, hSplit, hFresh, -, rfl⟩
          cases before with
          | nil =>
              obtain ⟨rfl, rfl⟩ := List.cons.inj hSplit
              rfl
          | cons other more =>
              -- The first would be one of those that take different types.
              obtain ⟨rfl, -⟩ := List.cons.inj hSplit
              rw [List.map_append, List.map_cons] at hFresh
              exact absurd (by simp) ((List.nodup_append'.mp hFresh).2.2 hTaken)
      · have hFree : ∀ other ∈ registry.handlers, other.request.name ≠ first.request.name :=
          fun other hOther hSame => hTaken (List.mem_map.mpr ⟨other, hOther, hSame⟩)
        have hAfter : ((registry.handlers ++ [first]).map (·.request.name)).Nodup := by
          rw [List.map_append, List.nodup_append']
          exact ⟨hNodup, by simp, by simpa using hTaken⟩
        rw [(register_eq_ok_iff registry _ first).mpr ⟨hFree, rfl⟩]
        refine (ih hAfter).trans ⟨?_, ?_⟩
        · rintro ⟨before, handler, after, rfl, hFresh, hRepeated, rfl⟩
          exact ⟨first :: before, handler, after, rfl, by simpa using hFresh,
            by simpa using hRepeated, rfl⟩
        · rintro ⟨before, handler, after, hSplit, hFresh, hRepeated, rfl⟩
          cases before with
          | nil =>
              obtain ⟨rfl, rfl⟩ := List.cons.inj hSplit
              exact absurd (by simpa using hRepeated) hTaken
          | cons other more =>
              obtain ⟨rfl, rfl⟩ := List.cons.inj hSplit
              exact ⟨more, handler, after, rfl, by simpa using hFresh, by simpa using hRepeated, rfl⟩

theorem ofHandlers_eq_error_iff (handlers : List (Handler σ ρ ι)) (fault : DuplicateHandler) :
    ofHandlers handlers = .error fault ↔
      ∃ before handler after, handlers = before ++ handler :: after ∧
        (before.map (·.request.name)).Nodup ∧
        handler.request.name ∈ before.map (·.request.name) ∧
        fault = ⟨handler.request.name⟩ := by
  have hNone : ((empty : Registry σ ρ ι).handlers.map (·.request.name)).Nodup := List.nodup_nil
  have hFrom := foldlM_register_eq_error_iff handlers hNone fault
  simpa [ofHandlers, empty] using hFrom

/-- Where no two handlers take the same type, the handler found for a type is the one that
takes it. -/
theorem find?_eq_some_iff {registry : Registry σ ρ ι}
    (hNodup : (registry.handlers.map (·.request.name)).Nodup) (request : String)
    (handler : Handler σ ρ ι) :
    registry.find? request = some handler ↔
      handler ∈ registry.handlers ∧ handler.request.name = request := by
  constructor
  · intro hFound
    exact ⟨List.mem_of_find?_eq_some hFound, by simpa using List.find?_some hFound⟩
  · rintro ⟨hMem, rfl⟩
    obtain ⟨found, hFound⟩ := Option.isSome_iff_exists.mp
      ((contains_iff registry handler.request.name).mpr ⟨handler, hMem, rfl⟩)
    have hSame : found.request.name = handler.request.name := by
      simpa using List.find?_some hFound
    rw [hFound, List.inj_on_of_nodup_map hNodup (List.mem_of_find?_eq_some hFound) hMem hSame]

/-- Handlers that are changed but take the same types of request are found in the same places. -/
theorem find?_map {σ' ρ' ι' : Type} (change : Handler σ ρ ι → Handler σ' ρ' ι')
    (hName : ∀ handler, (change handler).request.name = handler.request.name)
    (registry : Registry σ ρ ι) (request : String) :
    (⟨registry.handlers.map change⟩ : Registry σ' ρ' ι').find? request =
      (registry.find? request).map change := by
  unfold find?
  rw [List.find?_map]
  simp only [Function.comp_def, hName]

/-! ### Registering in spite of refusals -/

/-- The registry after one more call, which leaves it as it was if the handler is refused. -/
def attempt (registry : Registry σ ρ ι) (handler : Handler σ ρ ι) : Registry σ ρ ι :=
  match registry.register handler with
  | .ok after => after
  | .error _ => registry

/-- The registry that calls lead to, whichever of them are refused. -/
def ofAttempts (handlers : List (Handler σ ρ ι)) : Registry σ ρ ι :=
  handlers.foldl attempt empty

theorem find?_attempt (registry : Registry σ ρ ι) (handler : Handler σ ρ ι) (request : String) :
    (registry.attempt handler).find? request =
      (registry.find? request).or
        (if handler.request.name == request then some handler else none) := by
  unfold attempt register
  by_cases hTaken : registry.contains handler.request.name = true
  · simp only [hTaken, if_true]
    by_cases hName : handler.request.name == request
    · -- The handler that has taken the type stays in its place.
      rw [contains, beq_iff_eq.mp hName] at hTaken
      obtain ⟨taken, hFound⟩ := Option.isSome_iff_exists.mp hTaken
      simp [hFound]
    · simp [hName]
  · simp only [hTaken, Bool.false_eq_true, if_false]
    unfold find?
    rw [List.find?_append, List.find?_singleton]

/-- The handler that is found for a type is the first that was registered for it. -/
theorem find?_ofAttempts (handlers : List (Handler σ ρ ι)) (request : String) :
    (ofAttempts handlers).find? request =
      handlers.find? fun handler => handler.request.name == request := by
  have hFrom : ∀ registry : Registry σ ρ ι,
      (handlers.foldl attempt registry).find? request =
        (registry.find? request).or
          (handlers.find? fun handler => handler.request.name == request) := by
    induction handlers with
    | nil => intro registry; simp
    | cons handler rest ih =>
        intro registry
        rw [List.foldl_cons, ih, find?_attempt, List.find?_cons, Option.or_assoc]
        cases handler.request.name == request <;> rfl
  exact hFrom empty

end Registry
end Dispatch
end Switchboard
