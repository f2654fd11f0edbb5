import Switchboard.Proofs.Service.Handling

/-!
# Authorization of requests

A declaration asks for authorization by its flag or by a policy that is not blank, and then its
route puts one question to the gate: the headers of the request under the policy of this
declaration.  What else the gate would say plays no part (`AsksOnce`), and a route without
authorization puts no question at all (`AsksNothing`), whichever other methods its path serves.  A
request that is denied is answered before anything else of it is looked at, so two of them that have
the same headers cannot be told apart by their answers.

Who wants the head alone gets the answer of a denial without its body, and the body is where the
reason stands (`sample_denied_head_lacks_reason`).
-/

namespace Switchboard

open Catalogue (Binding accessOf entryOf)
open Dispatch (Handler Provider Token)
open Endpoint (Declaration)
open Http (Response Router)

namespace Catalogue

/-- A declaration that asks for authorization: by its flag, or by naming a policy. -/
def AsksForAuthorization (d : Declaration) : Prop :=
  d.requiresAuth = true ∨ ∃ given, d.policy = some given ∧ Text.trim given ≠ ""

/-- The policy of a declaration: what it names, trimmed, or none if nothing is left of that. -/
def IsPolicyOf (d : Declaration) (policy : Option String) : Prop :=
  ∀ name, policy = some name ↔
    ∃ given, d.policy = some given ∧ Text.trim given = name ∧ name ≠ ""

theorem bind_nonBlank?_eq_some_iff (given : Option String) (name : String) :
    given.bind Text.nonBlank? = some name ↔
      ∃ text, given = some text ∧ Text.trim text = name ∧ name ≠ "" := by
  rw [Option.bind_eq_some_iff]
  simp only [Text.nonBlank?_eq_some_iff]
  constructor
  · rintro ⟨text, hGiven, rfl, hNe⟩
    exact ⟨text, hGiven, rfl, hNe⟩
  · rintro ⟨text, hGiven, rfl, hNe⟩
    exact ⟨text, hGiven, rfl, hNe⟩

theorem isPolicyOf_iff (d : Declaration) (policy : Option String) :
    IsPolicyOf d policy ↔ policy = d.policy.bind Text.nonBlank? := by
  simp only [IsPolicyOf, ← bind_nonBlank?_eq_some_iff]
  constructor
  · exact Option.ext
  · rintro rfl name
    rfl

theorem asksForAuthorization_iff (d : Declaration) :
    AsksForAuthorization d ↔
      (d.requiresAuth || (d.policy.bind Text.nonBlank?).isSome) = true := by
  have hPolicy : (d.policy.bind Text.nonBlank?).isSome = true ↔
      ∃ given, d.policy = some given ∧ Text.trim given ≠ "" := by
    simp only [Option.isSome_iff_exists, bind_nonBlank?_eq_some_iff]
    constructor
    · rintro ⟨name, given, hGiven, rfl, hNe⟩
      exact ⟨given, hGiven, hNe⟩
    · rintro ⟨given, hGiven, hNe⟩
      exact ⟨_, given, hGiven, rfl, hNe⟩
  rw [Bool.or_eq_true, hPolicy]
  rfl

/-- A route is guarded exactly if its declaration asks for that, and it is guarded under the policy
of the declaration. -/
theorem accessOf_eq_required_iff (d : Declaration) (policy : Option String) :
    accessOf d = .required policy ↔ AsksForAuthorization d ∧ IsPolicyOf d policy := by
  rw [asksForAuthorization_iff, isPolicyOf_iff, accessOf]
  split_ifs with hAsks
  · simp [hAsks, eq_comm]
  · simp [hAsks]

theorem access_of_entryOf_eq_ok {routePrefix : String} {d : Declaration} {entry : Entry}
    (hEntry : entryOf routePrefix d = .ok entry) : entry.route.access = accessOf d := by
  obtain ⟨-, parts, -, rfl⟩ := (entryOf_eq_ok_iff routePrefix d entry).mp hEntry
  rfl

end Catalogue

namespace Service

open Catalogue (AsksForAuthorization IsPolicyOf)

variable {σ κ ρ ι : Type} {service : Service σ κ ρ ι} {router : Router (Mount ρ)}
  {request : Http.Request} {mount : Mount ρ} {headOnly : Bool}

/-- The response to a request that is denied. -/
def denial (reason : String) : Response := .failure 401 reason "UNAUTHORIZED"

/-- A response as it is sent: who wants the head alone gets it without its body. -/
def sent (headOnly : Bool) (response : Response) : Response :=
  if headOnly then response.withoutBody else response

/-- A host that differs from another one in its gate, which lets everyone pass. -/
def Host.opened (host : Host σ) : Host σ := { host with gate := fun _ _ => .allow }

theorem handle_of_route_eq_found
    (hRoute : router.route request.method request.uri.path = .found mount headOnly)
    (host : Host σ) (state : σ) :
    service.handle host router request state =
      (sent headOnly (service.respond host mount request state).1,
        (service.respond host mount request state).2) := by
  simp only [handle, hRoute, sent]

/-- A request that is denied is answered with the reason, whatever else it brings, and nothing is
done. -/
theorem handle_of_denied
    (hRoute : router.route request.method request.uri.path = .found mount headOnly)
    {host : Host σ} {reason : String} (hDenied : IsDenied host mount.route request.headers reason)
    (state : σ) :
    service.handle host router request state = (sent headOnly (denial reason), state) := by
  have hRefused : accept host mount request = .error (denial reason) := accept_of_denied hDenied
  rw [handle_of_route_eq_found hRoute, (respond_of_refused service state hRefused).1]

/-- Behind the gate, a request that may pass is handled as if there were none. -/
theorem handle_of_allowed
    (hRoute : router.route request.method request.uri.path = .found mount headOnly)
    {host : Host σ} (hAllowed : IsAllowed host mount.route request.headers) (state : σ) :
    service.handle host router request state =
      service.handle host.opened router request state := by
  have hOpened : IsAllowed host.opened mount.route request.headers := by
    cases hAccess : mount.route.access with
    | anonymous => exact .anyone hAccess
    | required policy => exact .byGate hAccess rfl
  have hAccept : accept host mount request = accept host.opened mount request := by
    rw [accept, accept, (decide_eq_allow_iff _ _ _).mpr hAllowed,
      (decide_eq_allow_iff _ _ _).mpr hOpened]
  have hRespond : service.respond host mount request state =
      service.respond host.opened mount request state := by
    rw [respond, respond, hAccept]
    rfl
  rw [handle_of_route_eq_found hRoute, handle_of_route_eq_found hRoute, hRespond]

/-- One question is put to the gate for a request: its headers under the given policy.  The gate's
word on it decides, and no other word of the gate is heard. -/
structure AsksOnce (service : Service σ κ ρ ι) (router : Router (Mount ρ))
    (request : Http.Request) (headOnly : Bool) (policy : Option String) : Prop where
  denied : ∀ (host : Host σ) reason, host.gate request.headers policy = .deny reason →
    ∀ state, service.handle host router request state = (sent headOnly (denial reason), state)
  allowed : ∀ host : Host σ, host.gate request.headers policy = .allow →
    ∀ state, service.handle host router request state =
      service.handle host.opened router request state
  only : ∀ host other : Host σ, host.newToken = other.newToken →
    host.gate request.headers policy = other.gate request.headers policy →
      ∀ state, service.handle host router request state =
        service.handle other router request state

/-- No question is put to the gate for a request: any two gates lead to the same. -/
def AsksNothing (service : Service σ κ ρ ι) (router : Router (Mount ρ))
    (request : Http.Request) : Prop :=
  ∀ host other : Host σ, host.newToken = other.newToken →
    ∀ state, service.handle host router request state = service.handle other router request state

theorem opened_eq_of_newToken_eq {host other : Host σ} (hToken : host.newToken = other.newToken) :
    host.opened = other.opened := by
  rw [Host.opened, Host.opened, hToken]

theorem asksOnce_of_required
    (hRoute : router.route request.method request.uri.path = .found mount headOnly)
    {policy : Option String} (hAccess : mount.route.access = .required policy) :
    AsksOnce service router request headOnly policy := by
  have hDenied : ∀ (host : Host σ) reason, host.gate request.headers policy = .deny reason →
      ∀ state, service.handle host router request state =
        (sent headOnly (denial reason), state) := fun host reason hGate state =>
    handle_of_denied hRoute ⟨policy, hAccess, hGate⟩ state
  have hAllowed : ∀ host : Host σ, host.gate request.headers policy = .allow →
      ∀ state, service.handle host router request state =
        service.handle host.opened router request state := fun host hGate state =>
    handle_of_allowed hRoute (.byGate hAccess hGate) state
  -- Either word of the gate leads to something that the gate has no part in any more.
  refine ⟨hDenied, hAllowed, fun host other hToken hGate state => ?_⟩
  cases hSays : host.gate request.headers policy with
  | deny reason =>
      rw [hDenied host reason hSays, hDenied other reason (hGate.symm.trans hSays)]
  | allow =>
      rw [hAllowed host hSays, hAllowed other (hGate.symm.trans hSays),
        opened_eq_of_newToken_eq hToken]

theorem asksNothing_of_anonymous
    (hRoute : router.route request.method request.uri.path = .found mount headOnly)
    (hAccess : mount.route.access = .anonymous) : AsksNothing service router request := by
  intro host other hToken state
  have hOpened : ∀ host : Host σ, service.handle host router request state =
      service.handle host.opened router request state := fun host =>
    handle_of_allowed hRoute (.anyone hAccess) state
  rw [hOpened host, hOpened other, opened_eq_of_newToken_eq hToken]

/-- The mounted route to which a request leads, with what its declaration says about the gate. -/
structure IsGuardedBy (service : Service σ κ ρ ι) (router : Router (Mount ρ))
    (request : Http.Request) (mount : Mount ρ) (headOnly : Bool) (d : Declaration) : Prop where
  route : Router.IsRouteFor mount.routed request.method request.uri.path headOnly
  required : AsksForAuthorization d → ∃ policy, mount.route.access = .required policy ∧
    IsPolicyOf d policy ∧ AsksOnce service router request headOnly policy
  anonymous : ¬ AsksForAuthorization d →
    mount.route.access = .anonymous ∧ AsksNothing service router request

theorem exists_required_of_asks {routePrefix : String} {d : Declaration} {entry : Catalogue.Entry}
    (hEntry : entryOf routePrefix d = .ok entry) (hAsks : AsksForAuthorization d) :
    ∃ policy, entry.route.access = .required policy ∧ IsPolicyOf d policy := by
  have hPolicy := (Catalogue.isPolicyOf_iff d _).mpr rfl
  refine ⟨_, ?_, hPolicy⟩
  rw [Catalogue.access_of_entryOf_eq_ok hEntry]
  exact (Catalogue.accessOf_eq_required_iff d _).mpr ⟨hAsks, hPolicy⟩

theorem anonymous_of_not_asks {routePrefix : String} {d : Declaration} {entry : Catalogue.Entry}
    (hEntry : entryOf routePrefix d = .ok entry) (hNot : ¬ AsksForAuthorization d) :
    entry.route.access = .anonymous := by
  cases hAccess : entry.route.access with
  | anonymous => rfl
  | required policy =>
      rw [Catalogue.access_of_entryOf_eq_ok hEntry] at hAccess
      exact absurd ((Catalogue.accessOf_eq_required_iff d policy).mp hAccess).1 hNot

/-- Requests with the same headers that the gate denies at one route get the same answer, with the
reason and nothing else, and change nothing.  Each request is held against the policy of the
declaration behind its own route, or against none if that declaration asks for no authorization,
whatever else is mounted at the path.  And what asks for authorization is not mounted without it.

The answer is sent without its body to those who want the head alone. -/
theorem mounted_route_asks_gate {routePrefix : String} {provider : Provider σ κ ι}
    {isCancelled : Token → σ → Bool} {parts : List (Declaration × Handler σ ρ ι)}
    {service : Service σ κ ρ ι}
    (hService : assemble routePrefix provider isCancelled
      (parts.map fun part => .of part.1 part.2) = .ok service)
    {router : Router (Mount ρ)} (hRouter : service.router? = some router) :
    (∀ (request other : Http.Request) mount headOnly otherHead,
      router.route request.method request.uri.path = .found mount headOnly →
      router.route other.method other.uri.path = .found mount otherHead →
      request.headers = other.headers →
        ∀ (host : Host σ) reason, IsDenied host mount.route request.headers reason →
          ∀ state otherState,
            service.handle host router request state = (sent headOnly (denial reason), state) ∧
            service.handle host router other otherState =
              (sent otherHead (denial reason), otherState)) ∧
      (∀ (request : Http.Request) mount headOnly,
        router.route request.method request.uri.path = .found mount headOnly →
          ∃ part ∈ parts, ∃ entry, entryOf routePrefix part.1 = .ok entry ∧
            mount = ⟨entry.route, part.2.request⟩ ∧
            IsGuardedBy service router request mount headOnly part.1) ∧
      ∀ part ∈ parts, AsksForAuthorization part.1 →
        ∀ mount ∈ service.mounts, ∀ entry, entryOf routePrefix part.1 = .ok entry →
          mount.route = entry.route →
            ∃ policy, mount.route.access = .required policy ∧ IsPolicyOf part.1 policy := by
  refine ⟨?_, ?_, ?_⟩
  · intro request other mount headOnly otherHead hRoute hOther hHeaders host reason hDenied state
      otherState
    have hOtherDenied : IsDenied host mount.route other.headers reason := hHeaders ▸ hDenied
    exact ⟨handle_of_denied hRoute hDenied state, handle_of_denied hOther hOtherDenied otherState⟩
  · intro request mount headOnly hRoute
    obtain ⟨hMount, hFor⟩ := isRouteFor_of_route_eq_found hRouter hRoute
    obtain ⟨part, hPart, entry, hEntry, hSame, -⟩ := exists_part_of_mem_mounts hService hMount
    have hOwn : mount.route = entry.route := congrArg Mount.route hSame
    refine ⟨part, hPart, entry, hEntry, hSame, hFor, fun hAsks => ?_, fun hNot => ?_⟩
    · obtain ⟨policy, hAccess, hPolicy⟩ := exists_required_of_asks hEntry hAsks
      rw [← hOwn] at hAccess
      exact ⟨policy, hAccess, hPolicy, asksOnce_of_required hRoute hAccess⟩
    · have hAccess := anonymous_of_not_asks hEntry hNot
      rw [← hOwn] at hAccess
      exact ⟨hAccess, asksNothing_of_anonymous hRoute hAccess⟩
  · intro part _ hAsks mount _ entry hEntry hOwn
    rw [hOwn]
    exact exists_required_of_asks hEntry hAsks

/-! ### A guarded route of the sample world -/

/-- A query for a greeting, for those who may read the names of visitors. -/
def greetGuarded : Declaration := greetVisitor.withAuth (some " visitors:read ")

/-- A command at the path of the query, which anyone may send. -/
def greetAnyone : Declaration :=
  (((Declaration.bare "app::Visitors" "Wave" .post).withRoute "greet").withCommand
    ⟨some "Ping", false⟩).withHandler ⟨[], none⟩

/-- A guarded query and an open command at one path. -/
def guardedParts : List (Declaration × Sample.SampleHandler) :=
  [(greetGuarded, Sample.greeter ['r']),
    (greetAnyone, Sample.commandHandler Sample.pingType [] fun _ => Sample.finishEmpty)]

def assembleGuardedParts : Except AssemblyFault Sample.SampleService :=
  assemble "" (Sample.provider .empty {}) Sample.State.isCancelled
    (guardedParts.map fun part => .of part.1 part.2)

/-- Who may use the route to which a method leads at the path of the sample visits. -/
def visitAccess? (router : Router (Mount Sample.Contents)) (method : String) :
    Option (Catalogue.Access × Bool) :=
  (router.route method "/visitors/greet").found?.map fun found =>
    (found.1.route.access, found.2)

theorem exists_mount_of_visitAccess? {router : Router (Mount Sample.Contents)} {method : String}
    {access : Catalogue.Access} {headOnly : Bool}
    (hAccess : visitAccess? router method = some (access, headOnly)) :
    ∃ mount, router.route method "/visitors/greet" = .found mount headOnly ∧
      mount.route.access = access := by
  obtain ⟨found, hFound, hSame⟩ := Option.map_eq_some_iff.mp hAccess
  obtain ⟨hOwn, rfl⟩ := Prod.mk.inj hSame
  exact ⟨found.1, Http.Routing.eq_found_of_found? hFound, hOwn⟩

theorem exists_guarded_visits :
    ∃ service router mount openMount, assembleGuardedParts = .ok service ∧
      service.router? = some router ∧
      router.route "GET" "/visitors/greet" = .found mount false ∧
      mount.route.access = .required (some "visitors:read") ∧
      router.route "POST" "/visitors/greet" = .found openMount false ∧
      openMount.route.access = .anonymous := by
  have hHolds : holdsOfAssembled assembleGuardedParts (fun _ router =>
      visitAccess? router "GET" == some (.required (some "visitors:read"), false) &&
        visitAccess? router "POST" == some (.anonymous, false)) = true := by
    decide +kernel
  obtain ⟨service, router, hService, hRouter, hCheck⟩ := exists_of_holdsOfAssembled hHolds
  simp only [Bool.and_eq_true, beq_iff_eq] at hCheck
  obtain ⟨mount, hGet, hGuarded⟩ := exists_mount_of_visitAccess? hCheck.1
  obtain ⟨openMount, hPost, hOpen⟩ := exists_mount_of_visitAccess? hCheck.2
  exact ⟨service, router, mount, openMount, hService, hRouter, hGet, hGuarded, hPost, hOpen⟩

/-- Without a token nobody is told a name, whatever the query string says, and to wave at the same
path nobody is asked for one. -/
theorem sample_mounted_route_asks_gate :
    ∃ service router openMount, assembleGuardedParts = .ok service ∧
      service.router? = some router ∧
      (∀ state otherState,
        service.handle Sample.host router (sampleVisit "GET" "name=Ada") state =
          (denial "Missing authorization token", state) ∧
        service.handle Sample.host router (sampleVisit "GET" "name=Bob&name=Eve") otherState =
          (denial "Missing authorization token", otherState)) ∧
      router.route "POST" "/visitors/greet" = .found openMount false ∧
      AsksNothing service router (sampleVisit "POST" "") ∧
      ∀ mount ∈ service.mounts, ∀ entry, entryOf "" greetGuarded = .ok entry →
        mount.route = entry.route → ∃ policy, mount.route.access = .required policy := by
  obtain ⟨service, router, mount, openMount, hService, hRouter, hGet, hGuarded, hPost, hOpen⟩ :=
    exists_guarded_visits
  obtain ⟨hDenied, hAsked, hMounted⟩ := mounted_route_asks_gate hService hRouter
  refine ⟨service, router, openMount, hService, hRouter, ?_, hPost, ?_, ?_⟩
  · intro state otherState
    exact hDenied (sampleVisit "GET" "name=Ada") (sampleVisit "GET" "name=Bob&name=Eve") mount false
      false hGet hGet rfl Sample.host "Missing authorization token" ⟨_, hGuarded, by decide⟩ state
      otherState
  · obtain ⟨part, -, entry, -, -, hOwn⟩ := hAsked (sampleVisit "POST" "") openMount false hPost
    have hNot : ¬ AsksForAuthorization part.1 := fun hAsks => by
      obtain ⟨policy, hAccess, -⟩ := hOwn.required hAsks
      exact nomatch hOpen.symm.trans hAccess
    exact (hOwn.anonymous hNot).2
  · intro other hOther entry hEntry hOwn
    obtain ⟨policy, hAccess, -⟩ :=
      hMounted _ (List.mem_cons_self ..) (Or.inl rfl) other hOther entry hEntry hOwn
    exact ⟨policy, hAccess⟩

/-- Of two denied requests with the same headers, the one for the head alone is not told the reason:
its answer has no body. -/
theorem sample_denied_head_lacks_reason :
    ∃ service router mount, assembleGuardedParts = .ok service ∧ service.router? = some router ∧
      router.route "GET" "/visitors/greet" = .found mount false ∧
      router.route "HEAD" "/visitors/greet" = .found mount true ∧
      IsDenied Sample.host mount.route [] "Missing authorization token" ∧
      (service.handle Sample.host router (sampleVisit "GET" "") .empty).1 =
        denial "Missing authorization token" ∧
      (service.handle Sample.host router (sampleVisit "HEAD" "") .empty).1.body = "" ∧
      (service.handle Sample.host router (sampleVisit "GET" "") .empty).1 ≠
        (service.handle Sample.host router (sampleVisit "HEAD" "") .empty).1 := by
  obtain ⟨service, router, mount, -, hService, hRouter, hGet, hGuarded, -, -⟩ :=
    exists_guarded_visits
  have hHead := Router.route_head_of_get hGet
  have hDenied : IsDenied Sample.host mount.route [] "Missing authorization token" :=
    ⟨_, hGuarded, by decide⟩
  have hAnswer : service.handle Sample.host router (sampleVisit "GET" "") .empty =
      (sent false (denial "Missing authorization token"), .empty) := by
    apply handle_of_denied
    · exact hGet
    · exact hDenied
  have hHeadAnswer : service.handle Sample.host router (sampleVisit "HEAD" "") .empty =
      (sent true (denial "Missing authorization token"), .empty) := by
    apply handle_of_denied
    · exact hHead
    · exact hDenied
  refine ⟨service, router, mount, hService, hRouter, hGet, hHead, hDenied, ?_, ?_, ?_⟩
  · rw [hAnswer]
    rfl
  · rw [hHeadAnswer]
    rfl
  · rw [hAnswer, hHeadAnswer]
    intro hSame
    have hBody : (denial "Missing authorization token").body ≠ "" := by decide
    exact hBody (congrArg Response.body hSame)

end Service
end Switchboard
