import Mathlib.Data.List.Induction
import Switchboard.Proofs.Dispatch.Registry

/-!
# Sequences of registrations

A registry is filled in place by calls of which some are refused.  A call looks the type of request up
and refuses the handler if there is one for that type, before anything is changed (`run_enter`).  So
after any sequence of calls the registry holds, for each type, the first handler that was registered
for it and nothing else (`mem_ofAttempts_iff`), whichever calls were refused on the way.

A list of handlers is registered in the same way, except that the first refusal ends it.
-/

namespace Switchboard
namespace Dispatch
namespace Registry

variable {σ ρ ι : Type}

/-- The registry that a call leaves behind, on either exit. -/
def leftBy : EStateM.Result DuplicateHandler (Registry σ ρ ι) Unit → Registry σ ρ ι
  | .ok _ after => after
  | .error _ after => after

/-- A type of request is taken by handlers that were registered before. -/
def IsTaken (before : List (Handler σ ρ ι)) (handler : Handler σ ρ ι) : Prop :=
  ∃ other ∈ before, other.request.name = handler.request.name

/-! ### One call -/

theorem run_enter (registry : Registry σ ρ ι) (handler : Handler σ ρ ι) :
    (enter handler).run registry =
      match registry.register handler with
      | .ok after => .ok () after
      | .error fault => .error fault registry := by
  -- What the table holds for the type is all that the call reads of it.
  have hRun : (enter handler).run registry =
      (do
        if registry.contains handler.request.name then
          throw ⟨handler.request.name⟩
        set (⟨registry.handlers ++ [handler]⟩ : Registry σ ρ ι) :
          EStateM DuplicateHandler (Registry σ ρ ι) Unit).run registry := rfl
  rw [hRun, register]
  cases registry.contains handler.request.name with
  | true => rfl
  | false => rfl

theorem leftBy_run_enter (registry : Registry σ ρ ι) (handler : Handler σ ρ ι) :
    leftBy ((enter handler).run registry) = registry.attempt handler := by
  rw [run_enter, attempt]
  cases registry.register handler with
  | ok after => rfl
  | error fault => rfl

theorem nodup_attempt {registry : Registry σ ρ ι}
    (hNodup : (registry.handlers.map (·.request.name)).Nodup) (handler : Handler σ ρ ι) :
    ((registry.attempt handler).handlers.map (·.request.name)).Nodup := by
  unfold attempt
  cases hRegister : registry.register handler with
  | error fault => exact hNodup
  | ok after =>
      obtain ⟨hFree, rfl⟩ := (register_eq_ok_iff registry after handler).mp hRegister
      rw [List.map_append, List.nodup_append']
      refine ⟨hNodup, by simp, ?_⟩
      simpa using hFree

/-! ### Sequences of calls -/

theorem ofAttempts_append_singleton (before : List (Handler σ ρ ι)) (handler : Handler σ ρ ι) :
    ofAttempts (before ++ [handler]) = (ofAttempts before).attempt handler := by
  simp [ofAttempts]

/-- However many calls are refused, no two handlers of the registry take one type. -/
theorem nodup_ofAttempts (handlers : List (Handler σ ρ ι)) :
    ((ofAttempts handlers).handlers.map (·.request.name)).Nodup := by
  induction handlers using List.reverseRecOn with
  | nil => exact List.nodup_nil
  | append_singleton before handler ih =>
      rw [ofAttempts_append_singleton]
      exact nodup_attempt ih handler

/-- The registry holds those handlers that are the first for their type. -/
theorem mem_ofAttempts_iff (handlers : List (Handler σ ρ ι)) (handler : Handler σ ρ ι) :
    handler ∈ (ofAttempts handlers).handlers ↔
      handlers.find? (fun other => other.request.name == handler.request.name) = some handler := by
  rw [← find?_ofAttempts, find?_eq_some_iff (nodup_ofAttempts handlers)]
  simp

theorem mem_names_ofAttempts_iff (before : List (Handler σ ρ ι)) (handler : Handler σ ρ ι) :
    handler.request.name ∈ (ofAttempts before).handlers.map (·.request.name) ↔
      IsTaken before handler := by
  rw [List.mem_map, ← contains_iff, contains, find?_ofAttempts, List.find?_isSome, IsTaken]
  simp

/-- What comes of a call after others: it is refused if the type is taken, and then it names the type
of the handler that has taken it and leaves the registry as it was. -/
structure Answers (before : List (Handler σ ρ ι)) (handler : Handler σ ρ ι)
    (result : EStateM.Result DuplicateHandler (Registry σ ρ ι) Unit) : Prop where
  refused_iff : (∃ fault after, result = .error fault after) ↔ IsTaken before handler
  refused : ∀ fault after, result = .error fault after → after = ofAttempts before ∧
    ∃ first, (ofAttempts before).find? handler.request.name = some first ∧
      fault = ⟨first.request.name⟩
  left : leftBy result = ofAttempts (before ++ [handler])

theorem answers_run_enter (before : List (Handler σ ρ ι)) (handler : Handler σ ρ ι) :
    Answers before handler ((enter handler).run (ofAttempts before)) := by
  have hLeft : leftBy ((enter handler).run (ofAttempts before)) =
      ofAttempts (before ++ [handler]) := by
    rw [leftBy_run_enter, ofAttempts_append_singleton]
  rw [run_enter] at hLeft ⊢
  cases hRegister : (ofAttempts before).register handler with
  | ok after =>
      rw [hRegister] at hLeft
      refine ⟨⟨nofun, fun hTaken => ?_⟩, nofun, hLeft⟩
      have hRefused := (register_eq_error_iff (ofAttempts before) handler _).mpr
        ⟨(mem_names_ofAttempts_iff before handler).mpr hTaken, rfl⟩
      exact nomatch hRegister.symm.trans hRefused
  | error fault =>
      rw [hRegister] at hLeft
      obtain ⟨hTaken, rfl⟩ := (register_eq_error_iff _ _ _).mp hRegister
      refine ⟨⟨fun _ => (mem_names_ofAttempts_iff before handler).mp hTaken,
        fun _ => ⟨_, _, rfl⟩⟩, ?_, hLeft⟩
      rintro _ _ ⟨⟩
      obtain ⟨first, hFirst, hName⟩ := List.mem_map.mp hTaken
      exact ⟨rfl, first, (find?_eq_some_iff (nodup_ofAttempts before) _ _).mpr ⟨hFirst, hName⟩,
        by rw [hName]⟩

/-! ### Lists that are registered as a whole -/

/-- The earliest handler of a list whose type is taken by those before it. -/
def IsFirstTaken (handlers : List (Handler σ ρ ι)) (handler : Handler σ ρ ι) : Prop :=
  ∃ before after, handlers = before ++ handler :: after ∧ IsTaken before handler ∧
    ∀ front other back, before = front ++ other :: back → ¬ IsTaken front other

theorem nodup_iff_forall_not_isTaken (handlers : List (Handler σ ρ ι)) :
    (handlers.map (·.request.name)).Nodup ↔
      ∀ before handler after, handlers = before ++ handler :: after →
        ¬ IsTaken before handler := by
  constructor
  · rintro hNodup before handler after rfl ⟨other, hOther, hSame⟩
    rw [List.map_append, List.map_cons, List.nodup_append'] at hNodup
    exact hNodup.2.2 (List.mem_map.mpr ⟨other, hOther, hSame⟩) (by simp)
  · intro hFree
    induction handlers using List.reverseRecOn with
    | nil => exact List.nodup_nil
    | append_singleton before handler ih =>
        have hBefore := ih fun front other back hSplit =>
          hFree front other (back ++ [handler]) (by simp [hSplit])
        rw [List.map_append, List.nodup_append']
        refine ⟨hBefore, by simp, ?_⟩
        intro name hName hLast
        obtain ⟨other, hOther, rfl⟩ := List.mem_map.mp hName
        exact hFree before handler [] (by simp) ⟨other, hOther, by simpa using hLast⟩

theorem ofHandlers_eq_error_iff_isFirstTaken (handlers : List (Handler σ ρ ι))
    (fault : DuplicateHandler) :
    ofHandlers handlers = .error fault ↔
      ∃ handler, IsFirstTaken handlers handler ∧ fault = ⟨handler.request.name⟩ := by
  rw [ofHandlers_eq_error_iff]
  constructor
  · rintro ⟨before, handler, after, hSplit, hNodup, hTaken, rfl⟩
    exact ⟨handler, ⟨before, after, hSplit, List.mem_map.mp hTaken,
      (nodup_iff_forall_not_isTaken before).mp hNodup⟩, rfl⟩
  · rintro ⟨handler, ⟨before, after, hSplit, hTaken, hFree⟩, rfl⟩
    exact ⟨before, handler, after, hSplit, (nodup_iff_forall_not_isTaken before).mpr hFree,
      List.mem_map.mpr hTaken, rfl⟩

/-- What registering handlers in their order comes to, call by call and as a whole. -/
structure KeepsFirst (handlers : List (Handler σ ρ ι)) : Prop where
  found : ∀ request, (ofAttempts handlers).find? request =
    handlers.find? fun handler => handler.request.name == request
  held : ∀ handler, handler ∈ (ofAttempts handlers).handlers ↔
    handlers.find? (fun other => other.request.name == handler.request.name) = some handler
  apart : ((ofAttempts handlers).handlers.map (·.request.name)).Nodup
  calls : ∀ before handler after, handlers = before ++ handler :: after →
    Answers before handler ((enter handler).run (ofAttempts before))
  exists_whole_iff : (∃ registry, ofHandlers handlers = .ok registry) ↔
    handlers.Pairwise fun a b => a.request.name ≠ b.request.name
  whole : ∀ registry, ofHandlers handlers = .ok registry → registry.handlers = handlers
  refused_iff : ∀ fault, ofHandlers handlers = .error fault ↔
    ∃ handler, IsFirstTaken handlers handler ∧ fault = ⟨handler.request.name⟩

/-- **The first handler stays.**  After any calls, refused ones among them, the registry holds for
each type the first handler registered for it and nothing else; a call is refused exactly if its type
was registered before, it names that type, and it changes nothing.  A list is registered as a whole
exactly if its types differ, and else the earliest handler whose type occurs before it is named. -/
theorem registrations_keep_first (handlers : List (Handler σ ρ ι)) : KeepsFirst handlers where
  found := find?_ofAttempts handlers
  held := mem_ofAttempts_iff handlers
  apart := nodup_ofAttempts handlers
  calls before handler _ _ := answers_run_enter before handler
  exists_whole_iff := by
    simp only [ofHandlers_eq_ok_iff, exists_and_left, exists_eq, and_true]
    exact List.pairwise_map
  whole registry hOk := by rw [((ofHandlers_eq_ok_iff handlers registry).mp hOk).2]
  refused_iff := ofHandlers_eq_error_iff_isFirstTaken handlers

end Registry
end Dispatch
end Switchboard
