import Switchboard.Dispatch.Handler
import Switchboard.Proofs.Dispatch.Services

/-!
# The arguments of a handler

The arguments of a handler are drawn one after another, each from the scope and in the state that the
one before it left.  This fails exactly if one of them cannot be drawn there, and then as the first of
these fails (`FirstUnresolved`).

What a parameter is said to need and how it is drawn are two things, and anybody may write both.  A
parameter is faithful if it is drawn from what it is said to need (`Parameter.IsFaithful`).  From a
scope of registered services all that is provided can be resolved, so a handler gets its arguments if
its parameters are faithful and all that they need is provided (`exists_resolveAll_eq_ok`).
-/

namespace Switchboard
namespace Dispatch

variable {σ κ ρ ι α : Type}

/-! ### What cannot be drawn -/

/-- A parameter for which there is no argument, and why. -/
inductive IsUnresolved (provider : Provider σ κ ι) (token : Token) :
    Parameter σ ρ ι → κ → σ → ResolveError → Prop where
  | missing {type : String} {scope : κ} {state : σ}
      (hFound : (provider.resolve type scope state).1 = none) :
      IsUnresolved provider token (.service type) scope state (.missing type)
  | mismatch {type : String} {scope : κ} {state : σ} {made : Instance ι}
      (hFound : (provider.resolve type scope state).1 = some made) (hType : made.type ≠ type) :
      IsUnresolved provider token (.service type) scope state (.mismatch type)
  | refused {needs : List String} {draw : Token → Resolver σ ι (Argument ρ ι)} {scope : κ}
      {state : σ} {cause : ResolveError}
      (hRefused : ((draw token).run provider scope state).1 = .error cause) :
      IsUnresolved provider token (.custom needs draw) scope state cause

/-- When parameters are resolved one after another, why the first fails that does. -/
inductive FirstUnresolved (provider : Provider σ κ ι) (contents : ρ) (token : Token) :
    List (Parameter σ ρ ι) → κ → σ → ResolveError → Prop where
  | here {parameter : Parameter σ ρ ι} {rest : List (Parameter σ ρ ι)} {scope : κ} {state : σ}
      {cause : ResolveError} (hHere : IsUnresolved provider token parameter scope state cause) :
      FirstUnresolved provider contents token (parameter :: rest) scope state cause
  | later {parameter : Parameter σ ρ ι} {rest : List (Parameter σ ρ ι)} {scope scope' : κ}
      {state state' : σ} {argument : Argument ρ ι} {cause : ResolveError}
      (hGiven : resolveOne provider contents token parameter scope state =
        (.ok argument, scope', state'))
      (hRest : FirstUnresolved provider contents token rest scope' state' cause) :
      FirstUnresolved provider contents token (parameter :: rest) scope state cause

section Arguments

variable (provider : Provider σ κ ι) (contents : ρ) (token : Token)

theorem map_eq_error_iff {ε β : Type} (f : α → β) (result : Except ε α) (error : ε) :
    result.map f = .error error ↔ result = .error error := by
  cases result with
  | error other => simp [Except.map]
  | ok value => simp [Except.map]

/-- There is no argument exactly for a service that is missing or of another type, and where a
resolver refuses. -/
theorem resolveOne_eq_error_iff (parameter : Parameter σ ρ ι) (scope : κ) (state : σ)
    (cause : ResolveError) :
    (resolveOne provider contents token parameter scope state).1 = .error cause ↔
      IsUnresolved provider token parameter scope state cause := by
  cases parameter with
  | request | token =>
      constructor
      · intro hError
        cases hError
      · intro hUnresolved
        cases hUnresolved
  | custom needs draw =>
      constructor
      · exact .refused
      · intro hUnresolved
        cases hUnresolved with
        | refused hRefused => exact hRefused
  | service type =>
      have hOne : (resolveOne provider contents token (.service type : Parameter σ ρ ι) scope
          state).1 = (Instance.as type (provider.resolve type scope state).1).map .service := rfl
      rw [hOne, map_eq_error_iff]
      constructor
      · intro hAs
        cases hFound : (provider.resolve type scope state).1 with
        | none =>
            rw [hFound] at hAs
            cases hAs
            exact .missing hFound
        | some made =>
            rw [hFound, Instance.as] at hAs
            by_cases hType : made.type = type
            · cases (if_pos hType).symm.trans hAs
            · cases (if_neg hType).symm.trans hAs
              exact .mismatch hFound hType
      · intro hUnresolved
        cases hUnresolved with
        | missing hFound => rw [hFound, Instance.as]
        | mismatch hFound hType => rw [hFound, Instance.as, if_neg hType]

/-- The resolution fails exactly with the first parameter for which there is no argument. -/
theorem resolveAll_eq_error_iff (parameters : List (Parameter σ ρ ι)) (scope : κ) (state : σ)
    (cause : ResolveError) :
    (resolveAll provider contents token parameters scope state).1 = .error cause ↔
      FirstUnresolved provider contents token parameters scope state cause := by
  induction parameters generalizing scope state with
  | nil => exact ⟨nofun, nofun⟩
  | cons parameter rest ih =>
      have hHere := resolveOne_eq_error_iff provider contents token parameter scope state
      rw [resolveAll]
      cases hOne : resolveOne provider contents token parameter scope state with
      | mk result left =>
          obtain ⟨scope', state'⟩ := left
          rw [hOne] at hHere
          cases result with
          | error other =>
              constructor
              · rintro ⟨⟩
                exact .here ((hHere _).mp rfl)
              · intro hFirst
                cases hFirst with
                | here hUnresolved =>
                    exact congrArg _ (Except.error.inj ((hHere cause).mpr hUnresolved))
                | later hGiven => exact nomatch hOne.symm.trans hGiven
          | ok argument =>
              refine (map_eq_error_iff _ _ _).trans ((ih scope' state').trans ?_)
              constructor
              · exact .later hOne
              · intro hFirst
                cases hFirst with
                | here hUnresolved => exact nomatch (hHere cause).mpr hUnresolved
                | later hGiven hRest =>
                    cases hOne.symm.trans hGiven
                    exact hRest

end Arguments

/-! ### What is drawn from what is needed -/

theorem Resolver.run_ask_of_none {provider : Provider σ κ ι} {type : String} {scope : κ} {state : σ}
    (hNone : (provider.resolve type scope state).1 = none)
    (next : Except ResolveError ι → Resolver σ ι α) :
    (Resolver.ask type next).run provider scope state =
      (next (.error (.missing type))).run provider (provider.resolve type scope state).2.1
        (provider.resolve type scope state).2.2 := by
  have hAs : Instance.as type (provider.resolve type scope state).1 = .error (.missing type) := by
    rw [hNone]
    rfl
  rw [← hAs]
  rfl

/-- A resolver asks for no other types of services, and refuses nothing as long as it is given what it
asks for. -/
inductive Resolver.StaysWithin (types : List String) : Resolver σ ι α → Prop where
  | done (value : α) : StaysWithin types (.done (.ok value))
  | ask {type : String} {next : Except ResolveError ι → Resolver σ ι α} (hType : type ∈ types)
      (hNext : ∀ value, StaysWithin types (next (.ok value))) : StaysWithin types (.ask type next)
  | act {change : σ → σ} {next : σ → Resolver σ ι α}
      (hNext : ∀ state, StaysWithin types (next state)) : StaysWithin types (.act change next)

/-- A parameter that is drawn from the services it is said to need. -/
def Parameter.IsFaithful : Parameter σ ρ ι → Prop
  | .custom needs draw => ∀ token, (draw token).StaysWithin needs
  | .request | .service _ | .token => True

/-- A handler whose parameters are drawn from the services it is said to depend on. -/
def Handler.IsFaithful (handler : Handler σ ρ ι) : Prop :=
  ∀ parameter ∈ handler.parameters, parameter.IsFaithful

theorem Parameter.IsFaithful.staysWithin {parameter : Parameter σ ρ ι}
    (hFaithful : parameter.IsFaithful) (contents : ρ) (token : Token) :
    (parameter.resolver contents token).StaysWithin parameter.dependencies := by
  cases parameter with
  | request => exact .done _
  | token => exact .done _
  | service type => exact .ask (List.mem_singleton_self type) fun value => .done _
  | custom needs draw => exact hFaithful token

variable {services : Services σ ι}

/-- From a scope of services that provide all that a resolver stays within, something is drawn. -/
theorem Resolver.StaysWithin.exists_run_eq_ok (hFormed : services.WellFormed) {types : List String}
    {resolver : Resolver σ ι α} (hStays : resolver.StaysWithin types)
    (hProvided : ∀ type ∈ types, services.provides type = true) {scope : Scope σ ι}
    (hScope : Scope.IsOf services scope) (state : σ) :
    ∃ value scope' state', resolver.run services.provider scope state = (.ok value, scope', state') ∧
      Scope.IsOf services scope' := by
  induction hStays generalizing scope state with
  | done value => exact ⟨value, scope, state, rfl, hScope⟩
  | act hNext ih => exact ih state hScope _
  | @ask type next hType hNext ih =>
      obtain ⟨made, hMade⟩ : ∃ made, (scope.resolve type state).1 = some made := by
        rw [← Option.ne_none_iff_exists']
        intro hFound
        have hNone := (hScope.resolve_eq_none_iff hFormed type state).mp hFound
        exact Bool.false_ne_true (hNone.symm.trans (hProvided type hType))
      have hAs := Instance.as_some (hScope.type_of_resolve hFormed hMade)
      obtain ⟨value, scope', state', hRun, hScope'⟩ :=
        ih made.value (hScope.resolve hFormed type state) (scope.resolve type state).2.2
      refine ⟨value, scope', state', ?_, hScope'⟩
      rw [← hAs, ← hMade] at hRun
      exact hRun

/-- From a scope of services a handler gets its arguments if its parameters are faithful and all that
they need is provided. -/
theorem exists_resolveAll_eq_ok (hFormed : services.WellFormed) (contents : ρ) (token : Token)
    (parameters : List (Parameter σ ρ ι)) (hFaithful : ∀ parameter ∈ parameters, parameter.IsFaithful)
    (hProvided : ∀ parameter ∈ parameters, ∀ type ∈ parameter.dependencies,
      services.provides type = true)
    {scope : Scope σ ι} (hScope : Scope.IsOf services scope) (state : σ) :
    ∃ arguments, (resolveAll services.provider contents token parameters scope state).1 =
      .ok arguments := by
  induction parameters generalizing scope state with
  | nil => exact ⟨[], rfl⟩
  | cons parameter rest ih =>
      rw [List.forall_mem_cons] at hFaithful hProvided
      obtain ⟨first, scope', state', hFirst, hScope'⟩ :=
        (hFaithful.1.staysWithin contents token).exists_run_eq_ok hFormed hProvided.1 hScope state
      obtain ⟨others, hOthers⟩ := ih hFaithful.2 hProvided.2 hScope' state'
      refine ⟨first :: others, ?_⟩
      rw [resolveAll, show resolveOne services.provider contents token parameter scope state = _ from
        hFirst]
      exact congrArg (·.map (first :: ·)) hOthers

end Dispatch
end Switchboard
