import Switchboard.Proofs.Dispatch.Resolution
import Switchboard.Proofs.Dispatch.Turns
import Switchboard.Proofs.Service.Assembly

/-!
# Answers of an assembled service

What could keep a handler from its work is checked before the service is there: each endpoint has
its handler, all that handlers are said to depend on is provided, and registered services provide
nothing that their scopes do not resolve.  So each request that an endpoint takes gets to its handler,
with arguments, unless it is cancelled, and is answered with what the handler ends with
(`AnsweredAs`).

The services are those of the bundled provider.  Of another provider nothing is claimed here: it may
say that it provides a type and still not resolve it.  In the same way a parameter may ask for more
than it is said to need, and no check looks at that (`unresolved_of_hidden_need`); of a handler with
such a parameter nothing is claimed either.
-/

namespace Switchboard

open Dispatch (Answer Argument Handler Mediator Outcome Registering Request ResolveError Resolver
  Scope Services Token exists_resolveAll_eq_ok resolveAll)

namespace Service

variable {σ κ ρ ι : Type}

/-- A mediator whose calls have all they need: each of the handlers is registered for its type of
request, and the services provide what it depends on. -/
structure IsReady (services : Services σ ι) (handlers : List (Handler σ ρ ι))
    (mediator : Mediator σ (Scope σ ι) ρ ι) : Prop where
  provider : mediator.provider = services.provider
  registered : ∀ handler ∈ handlers,
    mediator.registry.find? handler.request.name = some handler
  provided : ∀ handler ∈ handlers, ∀ type ∈ handler.dependencies, services.provides type = true

/-- What is checked when a service is assembled makes its mediator ready for all endpoints. -/
theorem isReady_of_assemble {routePrefix : String} {services : Services σ ι}
    {isCancelled : Token → σ → Bool} {endpoints : List (Endpoint σ ρ ι)}
    {service : Service σ (Scope σ ι) ρ ι}
    (hService : assemble routePrefix services.provider isCancelled endpoints = .ok service) :
    IsReady services (endpoints.map (·.handler)) service.mediator := by
  obtain ⟨pairs, hPaired⟩ := exists_isPaired hService
  obtain ⟨catalogue, mounts, registry, -, hRegister, rfl⟩ :=
    (assemble_eq_ok_iff _ _ service).mp hService
  obtain ⟨taken, -, hRegistry, -⟩ := (register_eq_ok_iff _ _ _ _ _).mp hRegister
  obtain ⟨hProvided, -, rfl⟩ := (registryOf_eq_ok_iff _ _ _).mp hRegistry
  have hServes := hPaired.servesEach
  refine ⟨rfl, ?_, ?_⟩
  · intro handler hHandler
    obtain ⟨endpoint, hEndpoint, rfl⟩ := List.mem_map.mp hHandler
    exact hServes.registered endpoint hEndpoint
  · -- A handler that is found in the registry has been checked with the others in it.
    intro handler hHandler type hType
    obtain ⟨endpoint, hEndpoint, rfl⟩ := List.mem_map.mp hHandler
    have hMem := List.mem_of_find?_eq_some (hServes.registered endpoint hEndpoint)
    exact hProvided _ hMem type hType

/-- How a call is answered whose handler can be given its arguments and would then end with an
outcome; `looked` are the states in which the token is looked at. -/
inductive AnsweredAs (isCancelled : σ → Bool) (looked : List σ) (request : String) :
    Outcome → Answer → Prop where
  | cancelled {outcome : Outcome} (hCancelled : ∃ state ∈ looked, isCancelled state = true) :
      AnsweredAs isCancelled looked request outcome (.error (.cancelled request))
  | value {value : Json.Value} (hNever : ∀ state ∈ looked, isCancelled state = false) :
      AnsweredAs isCancelled looked request (.ok value) (.ok value)
  | failure {failure : Dispatch.Failure} (hNever : ∀ state ∈ looked, isCancelled state = false) :
      AnsweredAs isCancelled looked request (.error failure) (.error (.failed failure))

/-- The answer is none of the errors with which a mediator turns a request away. -/
theorem AnsweredAs.not_turned_away {isCancelled : σ → Bool} {looked : List σ} {request : String}
    {outcome : Outcome} {answer : Answer}
    (hAnswered : AnsweredAs isCancelled looked request outcome answer) :
    (∀ name, answer ≠ .error (.noHandler name)) ∧
      ∀ name cause, answer ≠ .error (.unresolved name cause) := by
  cases hAnswered with
  | cancelled hCancelled => exact ⟨nofun, nofun⟩
  | value hNever => exact ⟨nofun, nofun⟩
  | failure hNever => exact ⟨nofun, nofun⟩

theorem answeredAs_ofOutcome {isCancelled : σ → Bool} {looked : List σ} (request : String)
    (outcome : Outcome) (hNever : ∀ state ∈ looked, isCancelled state = false) :
    AnsweredAs isCancelled looked request outcome (.ofOutcome outcome) := by
  cases outcome with
  | ok value => exact .value hNever
  | error failure => exact .failure hNever

/-- A handler that settles from a state in which it has its arguments is answered for, if the token
was not cancelled before. -/
theorem answeredAs_settleFrom {isCancelled : σ → Bool} {first : σ}
    (hFirst : isCancelled first = false) (request : String)
    (activity : Dispatch.Activity σ Outcome) (others : Nat → σ → σ) (ready : σ) :
    AnsweredAs isCancelled (first :: activity.starts others ready) request
      (activity.outcome others ready)
      (Mediator.answerOf request (activity.settleFrom isCancelled others ready).1) := by
  rw [Dispatch.Activity.settleFrom_result]
  by_cases hStops : (activity.starts others ready).any isCancelled = true
  · rw [if_pos hStops]
    obtain ⟨state, hMem, hState⟩ := List.any_eq_true.mp hStops
    exact .cancelled ⟨state, List.mem_cons_of_mem _ hMem, hState⟩
  · rw [if_neg hStops]
    refine answeredAs_ofOutcome request _ ?_
    intro state hMem
    rcases List.mem_cons.mp hMem with rfl | hLater
    · exact hFirst
    · have hNone := List.any_eq_false.mp (Bool.eq_false_of_not_eq_true hStops)
      exact Bool.eq_false_of_not_eq_true (hNone state hLater)

/-- A call to one of the handlers of a ready mediator ends with an answer for it. -/
theorem IsReady.exists_endsIn {services : Services σ ι} (hFormed : services.WellFormed)
    {handlers : List (Handler σ ρ ι)} {mediator : Mediator σ (Scope σ ι) ρ ι}
    (hReady : IsReady services handlers mediator) {handler : Handler σ ρ ι}
    (hHandler : handler ∈ handlers) (hFaithful : handler.IsFaithful) (contents : ρ) (token : Token)
    (others : Nat → σ → σ) (state : σ) :
    ∃ arguments scope ready turns answer final,
      resolveAll services.provider contents token handler.parameters (.ofServices services)
        (others 0 state) = (.ok arguments, scope, ready) ∧
      mediator.EndsIn others (.waiting ⟨handler.request.name, contents⟩ token) state turns answer
        final ∧
      AnsweredAs (mediator.isCancelled token)
        (others 0 state :: (handler.run arguments).starts others ready) handler.request.name
        ((handler.run arguments).outcome others ready) answer := by
  have hFound := hReady.registered handler hHandler
  have hProvided : ∀ parameter ∈ handler.parameters, ∀ type ∈ parameter.dependencies,
      services.provides type = true :=
    fun parameter hParameter type hType => hReady.provided handler hHandler type
      (List.mem_flatMap.mpr ⟨parameter, hParameter, hType⟩)
  obtain ⟨arguments, hArguments⟩ := exists_resolveAll_eq_ok hFormed contents token
    handler.parameters hFaithful hProvided (Scope.isOf_ofServices services) (others 0 state)
  obtain ⟨scope, ready, hAll⟩ : ∃ scope ready,
      resolveAll services.provider contents token handler.parameters (.ofServices services)
        (others 0 state) = (.ok arguments, scope, ready) := ⟨_, _, Prod.ext hArguments rfl⟩
  cases hCancelled : mediator.isCancelled token (others 0 state) with
  | true =>
      exact ⟨arguments, scope, ready, _, _, _, hAll,
        Mediator.endsIn_of_start_error (Mediator.start_of_cancelled hFound hCancelled),
        .cancelled ⟨_, List.mem_cons_self, hCancelled⟩⟩
  | false =>
      have hOpen : mediator.provider.openScope (others 0 state) =
          (.ofServices services, others 0 state) := by
        rw [hReady.provider]
        rfl
      have hResolved : resolveAll mediator.provider contents token handler.parameters
          (.ofServices services) (others 0 state) = (.ok arguments, scope, ready) := by
        rw [hReady.provider]
        exact hAll
      have hStart : mediator.start ⟨handler.request.name, contents⟩ token (others 0 state) =
          (.ok (scope, handler.run arguments), ready) :=
        Mediator.start_of_resolved hFound hCancelled hOpen hResolved
      exact ⟨arguments, scope, ready, _, _, _, hAll,
        Mediator.endsIn_of_start_ok others state hStart,
        answeredAs_settleFrom hCancelled _ _ _ _⟩

/-- In a service over registered services no request that an endpoint takes is turned away, if the
parameters of its handler are drawn from what they are said to need.  However the services were
registered, whenever the token is cancelled and whatever else happens between two turns, the call
ends with the handler's own value, with its own failure, or because the token was found cancelled. -/
theorem assembled_service_answers (routePrefix : String) (calls : List (Registering σ ι))
    (isCancelled : Token → σ → Bool) (endpoints : List (Endpoint σ ρ ι))
    (service : Service σ (Scope σ ι) ρ ι)
    (hService : assemble routePrefix (Services.ofCalls calls).provider isCancelled endpoints =
      .ok service)
    (endpoint : Endpoint σ ρ ι) (hEndpoint : endpoint ∈ endpoints)
    (hFaithful : endpoint.handler.IsFaithful) (contents : ρ) (token : Token)
    (others : Nat → σ → σ) (state : σ) :
    let handler := endpoint.handler
    let services := Services.ofCalls calls
    ∃ arguments scope ready turns answer final,
      resolveAll services.provider contents token handler.parameters (.ofServices services)
        (others 0 state) = (.ok arguments, scope, ready) ∧
      service.mediator.EndsIn others (.waiting ⟨handler.request.name, contents⟩ token) state turns
        answer final ∧
      (∀ name, answer ≠ .error (.noHandler name)) ∧
      (∀ name cause, answer ≠ .error (.unresolved name cause)) ∧
      AnsweredAs (isCancelled token)
        (others 0 state :: (handler.run arguments).starts others ready) handler.request.name
        ((handler.run arguments).outcome others ready) answer := by
  intro handler services
  have hReady := isReady_of_assemble hService
  have hCancelled : service.mediator.isCancelled = isCancelled := by
    obtain ⟨_, _, _, -, -, rfl⟩ := (assemble_eq_ok_iff _ _ service).mp hService
    rfl
  obtain ⟨arguments, scope, ready, turns, answer, final, hAll, hEnds, hAnswered⟩ :=
    hReady.exists_endsIn (Services.wellFormed_ofCalls calls)
      (List.mem_map_of_mem hEndpoint) hFaithful contents token others state
  obtain ⟨hHandled, hResolved⟩ := hAnswered.not_turned_away
  rw [hCancelled] at hAnswered
  exact ⟨arguments, scope, ready, turns, answer, final, hAll, hEnds, hHandled, hResolved, hAnswered⟩

/-- A directory that is built for each scope, in place of one that all scopes were to share, and a
log. -/
def sampleRegistrations : List (Registering Sample.State Sample.Component) :=
  [.shared "Directory" ⟨0, .log⟩, .shared "Log" ⟨1, .log⟩,
    .perScope "Directory" (Sample.Component.new (.directory 0))]

/-- A directory that is handed over only where there is a log, in which that is noted. -/
def watchedDirectory : Sample.SampleParameter :=
  .custom ["Log", "Directory"] fun _ => .ask "Log" fun log =>
    match log with
    | .error cause => .done (.error cause)
    | .ok _ => .act (Sample.State.record "looked up") fun _ =>
      .ask "Directory" fun found => .done (found.map .service)

/-- Finds a name in the directory that is watched. -/
def watchedFinder : Sample.SampleHandler :=
  Sample.queryHandler Sample.findType "Order" [.request, watchedDirectory] fun
    | [.request (.find name), .service ⟨_, .directory place⟩] =>
      Sample.answer fun state => Sample.findName name (state.names place)
    | _ => Sample.finishEmpty

theorem isFaithful_watchedFinder : watchedFinder.IsFaithful := by
  have hDirectory : watchedDirectory.IsFaithful := fun token =>
    .ask (by decide) fun log => .act fun state => .ask (by decide) fun found => .done _
  intro parameter hParameter
  rcases List.mem_pair.mp hParameter with rfl | rfl
  · trivial
  · exact hDirectory

/-- A request for an order is answered by its handler, with the name that it finds in a directory. -/
theorem sample_service_answers :
    ∃ service, assemble "/api" (Services.ofCalls sampleRegistrations).provider
        Sample.State.isCancelled [.of Catalogue.findOrder watchedFinder] = .ok service ∧
      ∃ turns final, service.mediator.EndsIn (fun _ => id) (.waiting ⟨"Find", .find "x"⟩ 0)
        { Sample.State.empty with directories := [["x"]] } turns (.ok (.text "x")) final := by
  have hSome : (assemble "/api" (Services.ofCalls sampleRegistrations).provider
      Sample.State.isCancelled [.of Catalogue.findOrder watchedFinder]).toOption.isSome = true := by
    decide +kernel
  obtain ⟨service, hService⟩ := exists_eq_ok_of_isSome hSome
  obtain ⟨arguments, scope, ready, turns, answer, final, hAll, hEnds, -, -, hAnswered⟩ :=
    assembled_service_answers "/api" sampleRegistrations Sample.State.isCancelled
      [.of Catalogue.findOrder watchedFinder] service hService _ List.mem_cons_self
      isFaithful_watchedFinder (.find "x") 0 (fun _ => id)
      { Sample.State.empty with directories := [["x"]] }
  cases hAll
  cases hAnswered with
  | cancelled hCancelled =>
      obtain ⟨state, hLooked, hState⟩ := hCancelled
      have hLive : state.isCancelled 0 = false := by
        rcases List.mem_pair.mp hLooked with rfl | rfl
        · rfl
        · rfl
      exact nomatch hState.symm.trans hLive
  | value hNever => exact ⟨service, hService, turns, final, hEnds⟩

/-! ### Needs that are not told -/

/-- A service is assembled whatever its handlers ask for beyond what they are said to need.  If the
first thing that a handler asks for is such a service, and is not there, then no call of it gets
anywhere. -/
theorem unresolved_of_hidden_need {routePrefix : String} {services : Services σ ι}
    (hFormed : services.WellFormed) {isCancelled : Token → σ → Bool}
    {endpoints : List (Endpoint σ ρ ι)} {service : Service σ (Scope σ ι) ρ ι}
    (hService : assemble routePrefix services.provider isCancelled endpoints = .ok service)
    {endpoint : Endpoint σ ρ ι} (hEndpoint : endpoint ∈ endpoints) {needs : List String}
    {draw : Token → Resolver σ ι (Argument ρ ι)} {rest : List (Dispatch.Parameter σ ρ ι)}
    (hFirst : endpoint.handler.parameters = .custom needs draw :: rest) {token : Token}
    {type : String} {next : Except ResolveError ι → Resolver σ ι (Argument ρ ι)}
    (hAsks : draw token = .ask type next)
    (hPasses : ∀ cause, next (.error cause) = .done (.error cause))
    (hHidden : services.provides type = false) (contents : ρ) (others : Nat → σ → σ) (state : σ)
    (hLive : isCancelled token (others 0 state) = false) :
    ∃ final, service.mediator.EndsIn others
      (.waiting ⟨endpoint.handler.request.name, contents⟩ token) state 1
      (.error (.unresolved endpoint.handler.request.name (.missing type))) final := by
  have hReady := isReady_of_assemble hService
  have hCancelled : service.mediator.isCancelled = isCancelled := by
    obtain ⟨_, _, _, -, -, rfl⟩ := (assemble_eq_ok_iff _ _ service).mp hService
    rfl
  have hNone : (services.provider.resolve type (.ofServices services) (others 0 state)).1 = none :=
    ((Scope.isOf_ofServices services).resolve_eq_none_iff hFormed type _).mpr hHidden
  have hRefused : ((draw token).run services.provider (.ofServices services) (others 0 state)).1 =
      .error (.missing type) := by
    rw [hAsks, Resolver.run_ask_of_none hNone, hPasses]
    rfl
  obtain ⟨⟨scope, ready⟩, hAll⟩ : ∃ left, resolveAll service.mediator.provider contents token
      endpoint.handler.parameters (.ofServices services) (others 0 state) =
        (.error (.missing type), left) := by
    refine ⟨_, Prod.ext ((Dispatch.resolveAll_eq_error_iff _ _ _ _ _ _ _).mpr ?_) rfl⟩
    rw [hFirst, hReady.provider]
    exact .here (.refused hRefused)
  have hOpen : service.mediator.provider.openScope (others 0 state) =
      (.ofServices services, others 0 state) := by
    rw [hReady.provider]
    rfl
  exact ⟨_, Mediator.endsIn_of_start_error (Mediator.start_of_unresolved
    (hReady.registered _ (List.mem_map_of_mem hEndpoint)) (hCancelled ▸ hLive) hOpen hAll)⟩

end Service
end Switchboard
