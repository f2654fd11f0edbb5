import Switchboard.Proofs.Dispatch.Ending
import Switchboard.Proofs.Http.Places
import Switchboard.Proofs.Http.Uri
import Switchboard.Proofs.Service.Assembly

/-!
# Handling a request to a mounted route

A request that the router hands to a mounted route passes the gate, is read and is validated, and
each of these steps may answer it in place of the handler.  `accept` decides which requests pass
(`accept_eq_ok_iff`); until then nothing is done to the state, and after that the call of the handler
is one as in `Mediator.Ends`.  So whether the handler is started, and what the response is, can be
told from the request, the gate and what the handler hands back (`Guards`).

Services, gates and handlers are arbitrary here, but nobody else is at work on the state while the
request is handled.
-/

namespace Switchboard

open Catalogue (Binding entryOf isSuccess_of_entryOf_eq_ok)
open Dispatch (Answer Argument Deed Failure FieldError Handler Mediator Outcome Provider Rejection
  Request RequestType Token resolveAll)
open Endpoint (Declaration)
open Http (Response Router bind_eq_ok_iff)

namespace Service

variable {σ κ ρ ι : Type}

/-! ### Watched services -/

/-- The service with a mediator that is watched. -/
def watched (service : Service σ κ ρ ι) : Service (σ × List Deed) κ ρ ι :=
  ⟨service.catalogue, service.mediator.watched, service.mounts⟩

/-- The host of a watched service. -/
def Host.watched (host : Host σ) : Host (σ × List Deed) where
  gate := host.gate
  newToken state :=
    let (token, after) := host.newToken state.1
    (token, after, state.2)

theorem newToken_watched (host : Host σ) (state : σ) (deeds : List Deed) :
    host.watched.newToken (state, deeds) =
      ((host.newToken state).1, (host.newToken state).2, deeds) := rfl

theorem accept_watched (host : Host σ) (mount : Mount ρ) (request : Http.Request) :
    accept host.watched mount request = accept host mount request := rfl

/-! ### Requests that pass -/

/-- A request with these headers may go to the route: anyone may, or the gate allows it. -/
inductive IsAllowed (host : Host σ) (route : Binding) (headers : Http.Headers) : Prop where
  | anyone (hAccess : route.access = .anonymous)
  | byGate {policy : Option String} (hAccess : route.access = .required policy)
      (hGate : host.gate headers policy = .allow)

/-- The gate is asked and denies the request. -/
def IsDenied (host : Host σ) (route : Binding) (headers : Http.Headers) (reason : String) : Prop :=
  ∃ policy, route.access = .required policy ∧ host.gate headers policy = .deny reason

/-- The contents that are read from a request to a route, with the parameters of its path folded in:
as fields that the body does not have yet, or as further pairs of the query string. -/
inductive IsRead (route : Binding) (type : RequestType ρ) (request : Http.Request)
    (contents : ρ) : Prop where
  | fromBody {body merged : Json.Value} (hSource : route.source = .body)
      (hBody : readBody request = .ok body)
      (hMerged : mergeIntoBody body
        (pathParameters (Route.mounted route.path) request.uri.path) = .ok merged)
      (hContents : type.ofJson merged = .ok contents)
  | fromQuery {pairs : List (String × String)} (hSource : route.source = .query)
      (hPairs : readPairs (joinQueries [request.uri.query.getD "",
        pathParameters (Route.mounted route.path) request.uri.path]) = .ok pairs)
      (hContents : type.ofForm (.pairs pairs) = .ok contents)

/-- A request whose contents may be given to the handler of a route. -/
structure IsAccepted (host : Host σ) (mount : Mount ρ) (request : Http.Request)
    (contents : ρ) : Prop where
  allowed : IsAllowed host mount.route request.headers
  read : IsRead mount.route mount.intake request contents
  valid : mount.intake.validate contents = .ok ()

theorem decide_eq_allow_iff (host : Host σ) (route : Binding) (headers : Http.Headers) :
    host.decide route headers = .allow ↔ IsAllowed host route headers := by
  unfold Host.decide
  cases hAccess : route.access with
  | anonymous => exact iff_of_true rfl (.anyone hAccess)
  | required policy =>
      constructor
      · exact .byGate hAccess
      · intro hAllowed
        cases hAllowed with
        | anyone hOther => exact nomatch hAccess.symm.trans hOther
        | byGate hOther hGate =>
            obtain rfl := Catalogue.Access.required.inj (hAccess.symm.trans hOther)
            exact hGate

theorem decide_eq_deny_iff (host : Host σ) (route : Binding) (headers : Http.Headers)
    (reason : String) :
    host.decide route headers = .deny reason ↔ IsDenied host route headers reason := by
  unfold Host.decide IsDenied
  cases route.access with
  | anonymous => simp
  | required policy => simp

theorem mapError_eq_ok_iff {ε ε' α : Type} (f : ε → ε') (result : Except ε α) (value : α) :
    result.mapError f = .ok value ↔ result = .ok value := by
  cases result <;> simp [Except.mapError]

theorem readContents_eq_ok_iff (route : Binding) (type : RequestType ρ) (request : Http.Request)
    (contents : ρ) :
    readContents route type request = .ok contents ↔ IsRead route type request contents := by
  unfold readContents
  dsimp only
  cases hSource : route.source with
  | body =>
      simp only [readFromBody, bind_eq_ok_iff, mapError_eq_ok_iff]
      constructor
      · rintro ⟨body, hBody, merged, hMerged, hContents⟩
        exact .fromBody hSource hBody hMerged hContents
      · intro hRead
        cases hRead with
        | fromBody _ hBody hMerged hContents => exact ⟨_, hBody, _, hMerged, hContents⟩
        | fromQuery hOther => exact nomatch hSource.symm.trans hOther
  | query =>
      simp only [readFromQuery, bind_eq_ok_iff, mapError_eq_ok_iff]
      constructor
      · rintro ⟨pairs, hPairs, hContents⟩
        exact .fromQuery hSource hPairs hContents
      · intro hRead
        cases hRead with
        | fromBody hOther => exact nomatch hSource.symm.trans hOther
        | fromQuery _ hPairs hContents => exact ⟨_, hPairs, hContents⟩

/-- A request that cannot be read is answered with a fault of the caller. -/
theorem InputFault.status_bounds (fault : InputFault) :
    400 ≤ fault.response.status ∧ fault.response.status < 500 := by
  cases fault <;> simp [InputFault.response, Response.text, Response.failure, Response.json]

/-- The request passes with its contents, or it is answered with the first thing that is wrong. -/
theorem accept_eq_ok_iff (host : Host σ) (mount : Mount ρ) (request : Http.Request)
    (contents : ρ) :
    accept host mount request = .ok contents ↔ IsAccepted host mount request contents := by
  have hParts : IsAccepted host mount request contents ↔
      host.decide mount.route request.headers = .allow ∧
        readContents mount.route mount.intake request = .ok contents ∧
        mount.intake.validate contents = .ok () := by
    rw [decide_eq_allow_iff, readContents_eq_ok_iff]
    exact ⟨fun h => ⟨h.allowed, h.read, h.valid⟩, fun h => ⟨h.1, h.2.1, h.2.2⟩⟩
  rw [hParts, accept]
  cases host.decide mount.route request.headers with
  | deny reason => simp
  | allow =>
      cases readContents mount.route mount.intake request with
      | error fault => simp
      | ok found =>
          cases hValid : mount.intake.validate found with
          | error errors =>
              simp only [hValid, reduceCtorEq, false_iff, not_and]
              rintro - ⟨rfl⟩
              simp [hValid]
          | ok valid =>
              simp only [hValid, Except.ok.injEq, true_and]
              constructor
              · rintro rfl
                exact ⟨rfl, hValid⟩
              · exact fun h => h.1

variable {host : Host σ} {mount : Mount ρ} {request : Http.Request}

theorem accept_of_denied {reason : String}
    (hDenied : IsDenied host mount.route request.headers reason) :
    accept host mount request = .error (.failure 401 reason "UNAUTHORIZED") := by
  rw [accept, (decide_eq_deny_iff _ _ _ _).mpr hDenied]

theorem accept_of_unread (hAllowed : IsAllowed host mount.route request.headers)
    {fault : InputFault} (hFault : readContents mount.route mount.intake request = .error fault) :
    accept host mount request = .error fault.response := by
  rw [accept, (decide_eq_allow_iff _ _ _).mpr hAllowed, hFault]

theorem accept_of_invalid (hAllowed : IsAllowed host mount.route request.headers) {contents : ρ}
    (hRead : IsRead mount.route mount.intake request contents) {errors : List FieldError}
    (hInvalid : mount.intake.validate contents = .error errors) :
    accept host mount request = .error (invalidResponse errors) := by
  rw [accept, (decide_eq_allow_iff _ _ _).mpr hAllowed, (readContents_eq_ok_iff _ _ _ _).mpr hRead]
  simp only [hInvalid]

/-! ### Responses of handlers that were started -/

/-- What a route answers when its handler has handed back an outcome, or was dropped in between
because its token was cancelled. -/
structure AnswersWith (route : Binding) (returned : Option Outcome) (response : Response) :
    Prop where
  /-- The status is that of success exactly if the handler has succeeded. -/
  success_iff : response.status = route.success.code ↔ ∃ value, returned = some (.ok value)
  value : ∀ value, returned = some (.ok value) →
    response = if route.responseBody.isSome ∧ route.success.allowsBody then
      .json route.success.code value else .empty route.success.code
  /-- The status is that of a rejection exactly if the failure is one, in whatever context. -/
  rejection_iff : ∀ failure, returned = some (.error failure) →
    (response.status ∈ [400, 401, 404] ↔ ∃ rejection, failure.rejection? = some rejection)
  rejected : ∀ failure rejection, returned = some (.error failure) →
    failure.rejection? = some rejection →
      response = .failure (rejectionCode rejection).1 rejection.message (rejectionCode rejection).2
  /-- Of any other failure the response tells nothing. -/
  failed : ∀ failure, returned = some (.error failure) → failure.rejection? = none →
    response = .failure 500 "An internal error occurred" "HANDLER_FAILURE"
  dropped : returned = none → response.status = 499

theorem rejectionCode_mem (rejection : Rejection) :
    (rejectionCode rejection).1 ∈ [400, 401, 404] := by
  cases rejection <;> simp [rejectionCode]

theorem success_code_mem {route : Binding} (hSuccess : route.success.isSuccess = true) :
    route.success.code ∈ [200, 204] := by
  cases hStatus : route.success <;> simp_all [Endpoint.Status.isSuccess, Endpoint.Status.code]

theorem answerResponse_ok (route : Binding) (value : Json.Value) :
    answerResponse route (.ok value) =
      if route.responseBody.isSome ∧ route.success.allowsBody then
        .json route.success.code value else .empty route.success.code := by
  simp only [answerResponse, Binding.returnsBody, Bool.and_eq_true]

theorem errorResponse_of_rejection {failure : Failure} {rejection : Rejection}
    (hRejection : failure.rejection? = some rejection) :
    errorResponse (.failed failure) =
      .failure (rejectionCode rejection).1 rejection.message (rejectionCode rejection).2 := by
  simp only [errorResponse, hRejection]

theorem errorResponse_of_other {failure : Failure} (hOther : failure.rejection? = none) :
    errorResponse (.failed failure) =
      .failure 500 "An internal error occurred" "HANDLER_FAILURE" := by
  simp only [errorResponse, hOther, internalText]

variable {route : Binding} {response : Response}

theorem AnswersWith.of_ok {value : Json.Value} (hStatus : response.status = route.success.code)
    (hResponse : response = if route.responseBody.isSome ∧ route.success.allowsBody then
      .json route.success.code value else .empty route.success.code) :
    AnswersWith route (some (.ok value)) response := by
  refine ⟨iff_of_true hStatus ⟨value, rfl⟩, ?_, nofun, nofun, nofun, nofun⟩
  rintro other ⟨⟩
  exact hResponse

theorem AnswersWith.of_rejection {failure : Failure} {rejection : Rejection}
    (hRejection : failure.rejection? = some rejection)
    (hStatus : (rejectionCode rejection).1 ≠ route.success.code) :
    AnswersWith route (some (.error failure)) (.failure (rejectionCode rejection).1
      rejection.message (rejectionCode rejection).2) := by
  refine ⟨iff_of_false hStatus nofun, nofun, ?_, ?_, ?_, nofun⟩
  · rintro _ ⟨⟩
    exact iff_of_true (rejectionCode_mem rejection) ⟨rejection, hRejection⟩
  · rintro _ other ⟨⟩ hSome
    obtain rfl := Option.some.inj (hRejection.symm.trans hSome)
    rfl
  · rintro _ ⟨⟩ hNone
    exact nomatch hRejection.symm.trans hNone

theorem AnswersWith.of_other {failure : Failure} (hOther : failure.rejection? = none)
    (hStatus : 500 ≠ route.success.code) :
    AnswersWith route (some (.error failure))
      (.failure 500 "An internal error occurred" "HANDLER_FAILURE") := by
  refine ⟨iff_of_false hStatus nofun, nofun, ?_, ?_, fun _ _ _ => rfl, nofun⟩
  · rintro _ ⟨⟩
    simp [hOther, Response.failure, Response.json]
  · rintro _ rejection ⟨⟩ hSome
    exact nomatch hOther.symm.trans hSome

/-- The response to a call is told by what the handler has handed back. -/
theorem answersWith_answerResponse (hSuccess : route.success.isSuccess = true)
    (request : String) (returned : Option Outcome) :
    AnswersWith route returned (answerResponse route (Mediator.answerOf request returned)) := by
  have hOther : ∀ status, status ∉ [200, 204] → status ≠ route.success.code :=
    fun status hNot hSame => hNot (hSame ▸ success_code_mem hSuccess)
  cases returned with
  | none =>
      exact ⟨iff_of_false (hOther 499 (by decide)) nofun, nofun, nofun, nofun, nofun, fun _ => rfl⟩
  | some outcome =>
      cases outcome with
      | ok value =>
          have hResponse := answerResponse_ok route value
          refine .of_ok ?_ hResponse
          show (answerResponse route (.ok value)).status = route.success.code
          rw [hResponse]
          split_ifs <;> rfl
      | error failure =>
          cases hRejection : failure.rejection? with
          | none =>
              have hResponse : answerResponse route
                  (Mediator.answerOf request (some (.error failure))) = _ :=
                errorResponse_of_other hRejection
              rw [hResponse]
              exact .of_other hRejection (hOther 500 (by decide))
          | some rejection =>
              have hResponse : answerResponse route
                  (Mediator.answerOf request (some (.error failure))) = _ :=
                errorResponse_of_rejection hRejection
              have hNot : (rejectionCode rejection).1 ∉ [200, 204] := by
                cases rejection <;> simp [rejectionCode]
              rw [hResponse]
              exact .of_rejection hRejection (hOther _ hNot)

/-! ### Requests in front of a handler -/

/-- A call of the handler with these contents is not cancelled before, gets its arguments, and is not
cancelled until then. -/
structure Starts (service : Service σ κ ρ ι) (host : Host σ) (handler : Handler σ ρ ι)
    (contents : ρ) (state : σ) (arguments : List (Argument ρ ι)) (ready : σ) : Prop where
  live : service.mediator.isCancelled (host.newToken state).1 (host.newToken state).2 = false
  resolved : ∃ scope, resolveAll service.mediator.provider contents (host.newToken state).1
    handler.parameters (service.mediator.provider.openScope (host.newToken state).2).1
    (service.mediator.provider.openScope (host.newToken state).2).2 = (.ok arguments, scope, ready)
  ready : service.mediator.isCancelled (host.newToken state).1 ready = false

/-- What a handler that is started hands back, unless it is dropped. -/
def returned (service : Service σ κ ρ ι) (host : Host σ) (handler : Handler σ ρ ι) (state : σ)
    (arguments : List (Argument ρ ι)) (ready : σ) : Option Outcome :=
  ((handler.run arguments).settleFrom
    (service.mediator.isCancelled (host.newToken state).1) (fun _ => id) ready).1

/-- How a request to a mounted route is handled, with the response, the state afterwards and what was
done for the call. -/
structure Guards (service : Service σ κ ρ ι) (host : Host σ) (mount : Mount ρ)
    (handler : Handler σ ρ ι) (request : Http.Request) (state : σ) (response : Response) (final : σ)
    (deeds : List Deed) : Prop where
  started_le_one : deeds.count .started ≤ 1
  /-- The handler is started for requests that pass, and for no others. -/
  started_iff : .started ∈ deeds ↔ ∃ contents arguments ready,
    IsAccepted host mount request contents ∧
      service.Starts host handler contents state arguments ready
  denied : ∀ reason, IsDenied host mount.route request.headers reason →
    response = .failure 401 reason "UNAUTHORIZED" ∧ final = state ∧ deeds = []
  unread : IsAllowed host mount.route request.headers →
    (∀ contents, ¬ IsRead mount.route mount.intake request contents) →
      ∃ fault, readContents mount.route mount.intake request = .error fault ∧
        response = fault.response ∧ 400 ≤ response.status ∧ response.status < 500 ∧
        final = state ∧ deeds = []
  invalid : IsAllowed host mount.route request.headers → ∀ contents,
    IsRead mount.route mount.intake request contents → ∀ errors,
      mount.intake.validate contents = .error errors →
        response = invalidResponse errors ∧ final = state ∧ deeds = []
  /-- The response of a handler that was started is told by what it has handed back. -/
  answered : ∀ contents arguments ready, IsAccepted host mount request contents →
    service.Starts host handler contents state arguments ready →
      AnswersWith mount.route (service.returned host handler state arguments ready) response

variable {service : Service σ κ ρ ι} {handler : Handler σ ρ ι} {state final : σ}
  {deeds : List Deed}

theorem Guards.of_refused (hRefused : accept host mount request = .error response) :
    Guards service host mount handler request state response state [] := by
  have hNone : ∀ contents, ¬ IsAccepted host mount request contents := fun contents hAccepted =>
    nomatch hRefused.symm.trans ((accept_eq_ok_iff _ _ _ _).mpr hAccepted)
  have hSame : ∀ refusal, accept host mount request = .error refusal → response = refusal :=
    fun refusal hOther => Except.error.inj (hRefused.symm.trans hOther)
  refine ⟨Nat.zero_le _, ?_, ?_, ?_, ?_, ?_⟩
  · refine iff_of_false nofun ?_
    rintro ⟨contents, -, -, hAccepted, -⟩
    exact hNone contents hAccepted
  · exact fun reason hDenied => ⟨hSame _ (accept_of_denied hDenied), rfl, rfl⟩
  · intro hAllowed hUnread
    cases hFound : readContents mount.route mount.intake request with
    | ok contents => exact absurd ((readContents_eq_ok_iff _ _ _ _).mp hFound) (hUnread contents)
    | error fault =>
        obtain rfl := hSame _ (accept_of_unread hAllowed hFound)
        obtain ⟨hLow, hHigh⟩ := fault.status_bounds
        exact ⟨fault, rfl, rfl, hLow, hHigh, rfl, rfl⟩
  · exact fun hAllowed contents hRead errors hInvalid =>
      ⟨hSame _ (accept_of_invalid hAllowed hRead hInvalid), rfl, rfl⟩
  · exact fun contents _ _ hAccepted => absurd hAccepted (hNone contents)

/-- A request that passes is not refused, so only its call is left to look at. -/
theorem Guards.of_accepted {contents : ρ} (hAccept : accept host mount request = .ok contents)
    (hOnce : deeds.count .started ≤ 1)
    (hStarted : .started ∈ deeds ↔
      ∃ arguments ready, service.Starts host handler contents state arguments ready)
    (hAnswered : ∀ arguments ready,
      service.Starts host handler contents state arguments ready →
        AnswersWith mount.route (service.returned host handler state arguments ready) response) :
    Guards service host mount handler request state response final deeds := by
  have hAccepted := (accept_eq_ok_iff _ _ _ _).mp hAccept
  have hOnly : ∀ other, IsAccepted host mount request other → other = contents :=
    fun other hOther =>
      Except.ok.inj (((accept_eq_ok_iff _ _ _ _).mpr hOther).symm.trans hAccept)
  refine ⟨hOnce, hStarted.trans ⟨?_, ?_⟩, ?_, ?_, ?_, ?_⟩
  · rintro ⟨arguments, ready, hStarts⟩
    exact ⟨contents, arguments, ready, hAccepted, hStarts⟩
  · rintro ⟨other, arguments, ready, hOther, hStarts⟩
    obtain rfl := hOnly other hOther
    exact ⟨arguments, ready, hStarts⟩
  · exact fun reason hDenied => nomatch hAccept.symm.trans (accept_of_denied hDenied)
  · exact fun _ hUnread => absurd hAccepted.read (hUnread contents)
  · exact fun hAllowed _ hRead _ hInvalid =>
      nomatch hAccept.symm.trans (accept_of_invalid hAllowed hRead hInvalid)
  · intro other arguments ready hOther hStarts
    obtain rfl := hOnly other hOther
    exact hAnswered arguments ready hStarts

/-- A request that is refused changes nothing, and nothing is done for it. -/
theorem respond_of_refused (service : Service σ κ ρ ι) (state : σ)
    (hRefused : accept host mount request = .error response) :
    service.respond host mount request state = (response, state) ∧
      service.watched.respond host.watched mount request (state, []) = (response, state, []) := by
  constructor
  · rw [respond, hRefused]
  · rw [respond, accept_watched, hRefused]

/-- A request that passes is answered as its call ends. -/
theorem respond_of_ends {contents : ρ} (hAccept : accept host mount request = .ok contents)
    {turns : Nat} {answer : Answer}
    (hEnds : service.mediator.Ends (fun _ => id) ⟨mount.intake.name, contents⟩
      (host.newToken state).1 (host.newToken state).2 turns answer deeds) :
    ∃ final, service.respond host mount request state =
        (answerResponse mount.route answer, final) ∧
      service.watched.respond host.watched mount request (state, []) =
        (answerResponse mount.route answer, final, deeds) := by
  obtain ⟨final, hOwn, hWatched⟩ := Mediator.dispatch_of_ends hEnds
  refine ⟨final, ?_, ?_⟩
  · simp only [respond, hAccept, hOwn]
  · simp only [respond, accept_watched, hAccept, newToken_watched, watched, hWatched]

/-- A call in which all dependencies are resolved ends as what its handler hands back, which is
started unless the token is found cancelled first. -/
theorem exists_ends_of_resolved {contents : ρ}
    (hFound : service.mediator.registry.find? mount.intake.name = some handler)
    (hLive : service.mediator.isCancelled (host.newToken state).1 (host.newToken state).2 = false)
    {arguments : List (Argument ρ ι)} {scope : κ} {ready : σ}
    (hAll : resolveAll service.mediator.provider contents (host.newToken state).1
      handler.parameters (service.mediator.provider.openScope (host.newToken state).2).1
      (service.mediator.provider.openScope (host.newToken state).2).2 =
        (.ok arguments, scope, ready)) :
    ∃ turns, service.mediator.Ends (fun _ => id) ⟨mount.intake.name, contents⟩
      (host.newToken state).1 (host.newToken state).2 turns
      (Mediator.answerOf mount.intake.name
        (service.returned host handler state arguments ready))
      (if service.mediator.isCancelled (host.newToken state).1 ready then [.opened, .closed]
        else [.opened, .started, .closed]) := by
  exact ⟨_, Mediator.ends_of_resolved hFound hLive rfl hAll⟩

/-- A handler is started with one list of arguments and in one state. -/
theorem Starts.unique {contents : ρ} {arguments others : List (Argument ρ ι)} {ready other : σ}
    (hStarts : service.Starts host handler contents state arguments ready)
    (hOther : service.Starts host handler contents state others other) :
    arguments = others ∧ ready = other := by
  obtain ⟨_, hResolved⟩ := hStarts.resolved
  obtain ⟨_, hSame⟩ := hOther.resolved
  cases hResolved.symm.trans hSame
  exact ⟨rfl, rfl⟩

/-- A call that starts its handler ends as what this hands back. -/
theorem Starts.exists_ends {contents : ρ} {arguments : List (Argument ρ ι)} {ready : σ}
    (hStarts : service.Starts host handler contents state arguments ready)
    (hFound : service.mediator.registry.find? mount.intake.name = some handler) :
    ∃ turns, service.mediator.Ends (fun _ => id) ⟨mount.intake.name, contents⟩
      (host.newToken state).1 (host.newToken state).2 turns
      (Mediator.answerOf mount.intake.name (service.returned host handler state arguments ready))
      [.opened, .started, .closed] := by
  obtain ⟨scope, hAll⟩ := hStarts.resolved
  obtain ⟨turns, hEnds⟩ := exists_ends_of_resolved hFound hStarts.live hAll
  rw [hStarts.ready] at hEnds
  exact ⟨turns, hEnds⟩

/-- A call that does not start its handler was cancelled too early or lacks a dependency. -/
theorem exists_ends_of_not_starts {contents : ρ}
    (hFound : service.mediator.registry.find? mount.intake.name = some handler)
    (hNo : ∀ arguments ready, ¬ service.Starts host handler contents state arguments ready) :
    ∃ turns answer deeds, service.mediator.Ends (fun _ => id) ⟨mount.intake.name, contents⟩
      (host.newToken state).1 (host.newToken state).2 turns answer deeds ∧ .started ∉ deeds := by
  cases hLive : service.mediator.isCancelled (host.newToken state).1 (host.newToken state).2 with
  | true => exact ⟨_, _, _, Mediator.ends_of_cancelled hFound hLive, by simp⟩
  | false =>
      cases hAll : resolveAll service.mediator.provider contents (host.newToken state).1
          handler.parameters (service.mediator.provider.openScope (host.newToken state).2).1
          (service.mediator.provider.openScope (host.newToken state).2).2 with
      | mk result left =>
          obtain ⟨scope, ready⟩ := left
          cases result with
          | error cause =>
              exact ⟨_, _, _, Mediator.ends_of_unresolved hFound hLive rfl hAll, by decide⟩
          | ok arguments =>
              obtain ⟨turns, hEnds⟩ := exists_ends_of_resolved hFound hLive hAll
              cases hReady : service.mediator.isCancelled (host.newToken state).1 ready with
              | true =>
                  rw [hReady] at hEnds
                  exact ⟨_, _, _, hEnds, by decide⟩
              | false => exact absurd ⟨hLive, ⟨scope, hAll⟩, hReady⟩ (hNo arguments ready)

/-- Every request to a mounted route is handled as it should be, whatever the gate says, whatever is
sent, and whatever the handler does. -/
theorem exists_guards
    (hFound : service.mediator.registry.find? mount.intake.name = some handler)
    (hSuccess : mount.route.success.isSuccess = true) (host : Host σ) (request : Http.Request)
    (state : σ) :
    ∃ response final deeds, service.respond host mount request state = (response, final) ∧
      service.watched.respond host.watched mount request (state, []) = (response, final, deeds) ∧
      Guards service host mount handler request state response final deeds := by
  cases hAccept : accept host mount request with
  | error refusal =>
      obtain ⟨hRespond, hWatched⟩ := respond_of_refused service state hAccept
      exact ⟨refusal, state, [], hRespond, hWatched, .of_refused hAccept⟩
  | ok contents =>
      by_cases hAny : ∃ arguments ready,
          service.Starts host handler contents state arguments ready
      · obtain ⟨arguments, ready, hStarts⟩ := hAny
        obtain ⟨turns, hEnds⟩ := hStarts.exists_ends hFound
        obtain ⟨final, hRespond, hWatched⟩ := respond_of_ends hAccept hEnds
        refine ⟨_, final, _, hRespond, hWatched, .of_accepted hAccept (by decide) ?_ ?_⟩
        · exact iff_of_true (by decide) ⟨arguments, ready, hStarts⟩
        · intro others other hOther
          obtain ⟨rfl, rfl⟩ := hStarts.unique hOther
          exact answersWith_answerResponse hSuccess _ _
      · have hNo : ∀ arguments ready,
            ¬ service.Starts host handler contents state arguments ready :=
          fun arguments ready hStarts => hAny ⟨arguments, ready, hStarts⟩
        obtain ⟨turns, answer, deeds, hEnds, hNotIn⟩ := exists_ends_of_not_starts hFound hNo
        obtain ⟨final, hRespond, hWatched⟩ := respond_of_ends hAccept hEnds
        have hOnce : deeds.count .started ≤ 1 := by
          rw [List.count_eq_zero_of_not_mem hNotIn]
          exact Nat.zero_le 1
        exact ⟨_, final, deeds, hRespond, hWatched, .of_accepted hAccept hOnce
          (iff_of_false hNotIn hAny) fun _ _ hStarts => absurd hStarts (hNo _ _)⟩

/-! ### Requests that the router hands to a route -/

variable {routePrefix : String} {provider : Provider σ κ ι} {isCancelled : Token → σ → Bool}

/-- What the router of a service finds is one of its mounted routes, to which the method and the
path lead. -/
theorem isRouteFor_of_route_eq_found {router : Router (Mount ρ)}
    (hRouter : service.router? = some router) {method path : String} {headOnly : Bool}
    (hRoute : router.route method path = .found mount headOnly) :
    mount ∈ service.mounts ∧ Router.IsRouteFor mount.routed method path headOnly := by
  obtain ⟨route, hMem, hTarget, hFor⟩ := Router.exists_isRouteFor_of_route_eq_found hRouter hRoute
  obtain ⟨other, hOther, rfl⟩ := List.mem_map.mp hMem
  obtain rfl : other = mount := hTarget
  exact ⟨hOther, hFor⟩

/-- Each mounted route of an assembled service is that of one of its parts, whose handler is the one
registered for what is read there. -/
theorem exists_part_of_mem_mounts {parts : List (Declaration × Handler σ ρ ι)}
    (hService : assemble routePrefix provider isCancelled
      (parts.map fun part => .of part.1 part.2) = .ok service) (hMount : mount ∈ service.mounts) :
    ∃ part ∈ parts, ∃ entry, entryOf routePrefix part.1 = .ok entry ∧
      mount = ⟨entry.route, part.2.request⟩ ∧
      service.mediator.registry.find? mount.intake.name = some part.2 := by
  obtain ⟨pairs, hPaired⟩ := exists_isPaired hService
  have hServes := hPaired.servesEach
  obtain ⟨endpoint, hEndpoint, entry, hEntry, rfl⟩ := hServes.of_mount mount hMount
  have hFound := hServes.registered endpoint hEndpoint
  obtain ⟨part, hPart, rfl⟩ := List.mem_map.mp hEndpoint
  exact ⟨part, hPart, entry, hEntry, rfl, hFound⟩

/-- Handlers of an assembled service are started by the requests that pass the gate, are read and are
valid, each once at most, and by no others; whatever is refused leaves the state as it was.  The
response is told by what is wrong with the request, and else by what the handler hands back.  A
request for the head alone, which leads to a route for the whole, is answered in the same way, but the
body is not sent. -/
theorem mounted_route_guards_handler {parts : List (Declaration × Handler σ ρ ι)}
    {service : Service σ κ ρ ι}
    (hService : assemble routePrefix provider isCancelled
      (parts.map fun part => .of part.1 part.2) = .ok service)
    {router : Router (Mount ρ)} (hRouter : service.router? = some router)
    {request : Http.Request} {mount : Mount ρ} {headOnly : Bool}
    (hRoute : router.route request.method request.uri.path = .found mount headOnly)
    (host : Host σ) (state : σ) :
    ∃ part ∈ parts, ∃ entry, entryOf routePrefix part.1 = .ok entry ∧
      mount = ⟨entry.route, part.2.request⟩ ∧
      Router.IsRouteFor mount.routed request.method request.uri.path headOnly ∧
      ∃ response final deeds,
        service.handle host router request state =
          (if headOnly then response.withoutBody else response, final) ∧
        service.watched.handle host.watched router request (state, []) =
          (if headOnly then response.withoutBody else response, final, deeds) ∧
        Guards service host mount part.2 request state response final deeds := by
  obtain ⟨hMount, hFor⟩ := isRouteFor_of_route_eq_found hRouter hRoute
  obtain ⟨part, hPart, entry, hEntry, hSame, hFound⟩ := exists_part_of_mem_mounts hService hMount
  have hSuccess : mount.route.success.isSuccess = true := by
    rw [hSame]
    exact isSuccess_of_entryOf_eq_ok hEntry
  obtain ⟨response, final, deeds, hRespond, hWatched, hGuards⟩ :=
    exists_guards hFound hSuccess host request state
  refine ⟨part, hPart, entry, hEntry, hSame, hFor, response, final, deeds, ?_, ?_, hGuards⟩
  · simp only [handle, hRoute, hRespond]
  · simp only [handle, hRoute, hWatched]

/-! ### A route of the sample world -/

/-- A query for a greeting, which anyone may send. -/
def greetVisitor : Declaration :=
  ((Declaration.bare "app::Visitors" "Greet" .get).withQuery ⟨some "Greet", false⟩).withHandler
    ⟨[⟨"visitor", "Greet"⟩], some "String"⟩

/-- The greeting is the name of the visitor. -/
def sampleParts : List (Declaration × Sample.SampleHandler) :=
  [(greetVisitor, Sample.greeter ['r'])]

def assembleSampleParts : Except AssemblyFault Sample.SampleService :=
  assemble "" (Sample.provider .empty {}) Sample.State.isCancelled
    (sampleParts.map fun part => .of part.1 part.2)

/-- A request for a greeting. -/
def sampleVisit (method query : String) : Http.Request :=
  ⟨method, ⟨"/visitors/greet", some query⟩, [], ""⟩

/-- Whether a service was assembled and has a router, and something holds of the two. -/
def holdsOfAssembled (assembled : Except AssemblyFault Sample.SampleService)
    (check : Sample.SampleService → Router (Mount Sample.Contents) → Bool) : Bool :=
  (assembled.toOption.bind fun service => service.router?.map (check service)).getD false

theorem exists_of_holdsOfAssembled {assembled : Except AssemblyFault Sample.SampleService}
    {check : Sample.SampleService → Router (Mount Sample.Contents) → Bool}
    (hHolds : holdsOfAssembled assembled check = true) :
    ∃ service router, assembled = .ok service ∧ service.router? = some router ∧
      check service router = true := by
  unfold holdsOfAssembled at hHolds
  cases assembled with
  | error fault => simp [Except.toOption] at hHolds
  | ok service =>
      cases hRouter : service.router? with
      | none => simp [Except.toOption, hRouter] at hHolds
      | some router =>
          simp only [Except.toOption, Option.bind_some, hRouter, Option.map_some,
            Option.getD_some] at hHolds
          exact ⟨service, router, rfl, hRouter, hHolds⟩

/-- Whether something holds of the service of the sample parts, its router and the route to which a
method leads. -/
def holdsOfVisit (method : String)
    (check : Sample.SampleService → Router (Mount Sample.Contents) → Mount Sample.Contents → Bool →
      Bool) : Bool :=
  (assembleSampleParts.toOption.bind fun service =>
    service.router?.map fun router =>
      match router.route method "/visitors/greet" with
      | .found mount headOnly => check service router mount headOnly
      | _ => false).getD false

theorem exists_of_holdsOfVisit {method : String}
    {check : Sample.SampleService → Router (Mount Sample.Contents) → Mount Sample.Contents → Bool →
      Bool} (hHolds : holdsOfVisit method check = true) :
    ∃ service router mount headOnly, assembleSampleParts = .ok service ∧
      service.router? = some router ∧
      router.route method "/visitors/greet" = .found mount headOnly ∧
      check service router mount headOnly = true := by
  unfold holdsOfVisit at hHolds
  cases hService : assembleSampleParts with
  | error fault => simp [hService, Except.toOption] at hHolds
  | ok service =>
      cases hRouter : service.router? with
      | none => simp [hService, Except.toOption, hRouter] at hHolds
      | some router =>
          simp only [hService, Except.toOption, Option.bind_some, hRouter, Option.map_some,
            Option.getD_some] at hHolds
          cases hRoute : router.route method "/visitors/greet" with
          | nothing => simp [hRoute] at hHolds
          | otherMethods methods => simp [hRoute] at hHolds
          | found mount headOnly =>
              rw [hRoute] at hHolds
              exact ⟨service, router, mount, headOnly, rfl, hRouter, hRoute, hHolds⟩

/-- Whether a visit is accepted as one for the greeting of a name. -/
def isAcceptedAs (name : String) (mount : Mount Sample.Contents) (request : Http.Request) : Bool :=
  match accept Sample.host mount request with
  | .ok (.greet given) => given == name
  | _ => false

theorem isAccepted_of_isAcceptedAs {name : String} {mount : Mount Sample.Contents}
    {request : Http.Request} (hAccepted : isAcceptedAs name mount request = true) :
    IsAccepted Sample.host mount request (.greet name) := by
  unfold isAcceptedAs at hAccepted
  split at hAccepted
  · rename_i given hAccept
    obtain rfl : given = name := by simpa using hAccepted
    exact (accept_eq_ok_iff _ _ _ _).mp hAccept
  · exact nomatch hAccepted

/-- A visitor who gives no name is told so, and nothing is done.  For one who does, the handler is
started, and the name is the body of the response. -/
theorem sample_mounted_route_guards_handler :
    ∃ service router mount, assembleSampleParts = .ok service ∧ service.router? = some router ∧
      router.route "GET" "/visitors/greet" = .found mount false ∧
      Router.IsRouteFor mount.routed "GET" "/visitors/greet" false ∧
      (∃ response, service.handle Sample.host router (sampleVisit "GET" "") .empty =
        (response, .empty) ∧ 400 ≤ response.status ∧ response.status < 500) ∧
      ∃ final deeds,
        service.handle Sample.host router (sampleVisit "GET" "name=Ada") .empty =
          (.json 200 (.text "Ada"), final) ∧
        service.watched.handle Sample.host.watched router (sampleVisit "GET" "name=Ada")
          (.empty, []) = (.json 200 (.text "Ada"), final, deeds) ∧ .started ∈ deeds := by
  have hHolds : holdsOfVisit "GET" (fun _ _ mount headOnly =>
      !headOnly && mount.route.access == .anonymous && mount.route.responseBody.isSome &&
        mount.route.success == .ok && isAcceptedAs "Ada" mount (sampleVisit "GET" "name=Ada") &&
        (readContents mount.route mount.intake (sampleVisit "GET" "")).toOption.isNone) = true := by
    decide +kernel
  obtain ⟨service, router, mount, headOnly, hService, hRouter, hRoute, hCheck⟩ :=
    exists_of_holdsOfVisit hHolds
  simp only [Bool.and_eq_true, Bool.not_eq_true', beq_iff_eq, Option.isNone_iff_eq_none] at hCheck
  obtain ⟨⟨⟨⟨⟨rfl, hAccess⟩, hBody⟩, hSuccess⟩, hAda⟩, hNone⟩ := hCheck
  have hUnread : ∀ contents,
      ¬ IsRead mount.route mount.intake (sampleVisit "GET" "") contents := by
    intro contents hRead
    rw [(readContents_eq_ok_iff _ _ _ _).mpr hRead] at hNone
    exact nomatch hNone
  have hVisit (query : String) : router.route (sampleVisit "GET" query).method
      (sampleVisit "GET" query).uri.path = .found mount false := hRoute
  obtain ⟨part, -, -, -, -, hFor, response, final, deeds, hHandle, -, hGuards⟩ :=
    mounted_route_guards_handler hService hRouter (hVisit "") Sample.host .empty
  obtain ⟨fault, -, -, hLow, hHigh, rfl, -⟩ := hGuards.unread (.anyone hAccess) hUnread
  refine ⟨service, router, mount, hService, hRouter, hRoute, hFor,
    ⟨response, hHandle, hLow, hHigh⟩, ?_⟩
  obtain ⟨greeter, hGreeter, -, -, -, -, answer, final, deeds, hHandle, hWatched, hGuards⟩ :=
    mounted_route_guards_handler hService hRouter (hVisit "name=Ada") Sample.host .empty
  obtain rfl := List.mem_singleton.mp hGreeter
  -- The handler is the greeter, which is given the request and hands back its name.
  have hStarts : service.Starts Sample.host (Sample.greeter ['r']) (.greet "Ada") .empty
      [.request (.greet "Ada")] { Sample.State.empty with events := ["open"], tokens := 1 } := by
    obtain ⟨_, _, _, -, -, rfl⟩ := (assemble_eq_ok_iff _ _ service).mp hService
    exact ⟨rfl, ⟨_, rfl⟩, rfl⟩
  have hReturned : service.returned Sample.host (Sample.greeter ['r']) .empty
      [.request (.greet "Ada")] { Sample.State.empty with events := ["open"], tokens := 1 } =
        some (.ok (.text "Ada")) := by
    obtain ⟨_, _, _, -, -, rfl⟩ := (assemble_eq_ok_iff _ _ service).mp hService
    rfl
  have hAccepted := isAccepted_of_isAcceptedAs hAda
  have hAnswer := (hGuards.answered _ _ _ hAccepted hStarts).value _ hReturned
  rw [hSuccess, if_pos ⟨hBody, rfl⟩] at hAnswer
  obtain rfl : answer = .json 200 (.text "Ada") := hAnswer
  exact ⟨final, deeds, hHandle, hWatched, hGuards.started_iff.mpr ⟨_, _, _, hAccepted, hStarts⟩⟩

/-- Asked for the head of a greeting, the service starts the handler, which hands back the name of the
visitor.  The route has a body and the status allows one, but the response has none. -/
theorem sample_head_lacks_body :
    ∃ service router mount arguments ready response final deeds,
      assembleSampleParts = .ok service ∧ service.router? = some router ∧
      router.route "HEAD" "/visitors/greet" = .found mount true ∧
      mount.route.responseBody.isSome = true ∧ mount.route.success.allowsBody = true ∧
      service.Starts Sample.host (Sample.greeter ['r']) (.greet "Ada") .empty arguments ready ∧
      service.returned Sample.host (Sample.greeter ['r']) .empty arguments ready =
        some (.ok (.text "Ada")) ∧
      service.watched.handle Sample.host.watched router (sampleVisit "HEAD" "name=Ada")
        (.empty, []) = (response, final, deeds) ∧ .started ∈ deeds ∧
      response = Response.withoutBody (.json 200 (.text "Ada")) ∧
      response.body ≠ (Json.Value.text "Ada").render false := by
  have hHolds : holdsOfVisit "HEAD" (fun service router mount headOnly =>
      let answered := service.watched.handle Sample.host.watched router
        (sampleVisit "HEAD" "name=Ada") (.empty, [])
      headOnly && mount.route.responseBody.isSome && mount.route.success.allowsBody &&
        answered.2.2.contains .started &&
        answered.1 == Response.withoutBody (.json 200 (.text "Ada"))) = true := by
    decide +kernel
  obtain ⟨service, router, mount, headOnly, hService, hRouter, hRoute, hCheck⟩ :=
    exists_of_holdsOfVisit hHolds
  simp only [Bool.and_eq_true, beq_iff_eq, List.contains_iff_mem] at hCheck
  obtain ⟨⟨⟨⟨rfl, hBody⟩, hAllows⟩, hStarted⟩, hResponse⟩ := hCheck
  have hParts := hService
  obtain ⟨catalogue, mounts, registry, -, -, rfl⟩ := (assemble_eq_ok_iff _ _ service).mp hParts
  refine ⟨_, router, mount, [.request (.greet "Ada")],
    { Sample.State.empty with events := ["open"], tokens := 1 }, _, _, _, hService, hRouter, hRoute,
    hBody, hAllows, ⟨rfl, ⟨_, rfl⟩, rfl⟩, rfl, rfl, hStarted, hResponse, ?_⟩
  have hLacks : (Response.withoutBody (.json 200 (.text "Ada"))).body ≠
      (Json.Value.text "Ada").render false := by
    decide
  exact fun hSame => hLacks ((congrArg Response.body hResponse).symm.trans hSame)

end Service
end Switchboard
