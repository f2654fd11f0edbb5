import Switchboard.Proofs.Dispatch.Registry
import Switchboard.Proofs.Dispatch.Resolution
import Switchboard.Proofs.Dispatch.Turns

/-!
# How calls end

Every call ends, and there are five ways to end: nobody takes the request, the token was cancelled
before, a dependency is not resolved, the token is found cancelled before the handler is done, or
the handler ends by itself.  Each has its conditions and its answer (`Mediator.EndsAs`).  What a
call does to scopes is written down beside the state by a mediator that is watched and otherwise
does the same; whichever way the call ends, it has closed as many scopes as it has opened.

Handlers, providers, and whoever else is at work on the state are arbitrary here.  In particular the
token may be cancelled by any of them.
-/

namespace Switchboard
namespace Dispatch

variable {σ κ ρ ι : Type}

/-! ### Watched mediators -/

/-- What is written down of a call. -/
inductive Deed where
  | opened
  | started
  | closed
deriving DecidableEq, Repr

/-- The provider, with a list beside the state in which it writes what happens to scopes. -/
def Provider.watched (provider : Provider σ κ ι) : Provider (σ × List Deed) κ ι where
  provides := provider.provides
  openScope state :=
    let (scope, after) := provider.openScope state.1
    (scope, after, state.2 ++ [.opened])
  resolve type scope state :=
    let (found, scope, after) := provider.resolve type scope state.1
    (found, scope, after, state.2)
  closeScope scope state := (provider.closeScope scope state.1, state.2 ++ [.closed])

/-- The handler, which also writes down that it has been started. -/
def Handler.watched (handler : Handler σ ρ ι) : Handler (σ × List Deed) ρ ι where
  request := handler.request
  response := handler.response
  kind := handler.kind
  parameters := handler.parameters.map (·.beside)
  run arguments := .act (Prod.map id (· ++ [.started])) fun _ => (handler.run arguments).beside

def Registry.watched (registry : Registry σ ρ ι) : Registry (σ × List Deed) ρ ι :=
  ⟨registry.handlers.map Handler.watched⟩

def Mediator.watched (mediator : Mediator σ κ ρ ι) : Mediator (σ × List Deed) κ ρ ι where
  registry := mediator.registry.watched
  provider := mediator.provider.watched
  isCancelled token state := mediator.isCancelled token state.1

theorem Registry.find?_watched (registry : Registry σ ρ ι) (request : String) :
    registry.watched.find? request = (registry.find? request).map Handler.watched :=
  find?_map Handler.watched (fun _ => rfl) registry request

/-- Asking for services is not written down, so a watched provider gives the same. -/
theorem Resolver.run_watched {α : Type} (provider : Provider σ κ ι) (resolver : Resolver σ ι α)
    (scope : κ) (state : σ) (deeds : List Deed) :
    resolver.beside.run provider.watched scope (state, deeds) =
      let (result, scope, after) := resolver.run provider scope state
      (result, scope, after, deeds) := by
  induction resolver generalizing scope state with
  | done result => rfl
  | ask type next ih => exact ih _ _ _
  | act change next ih => exact ih state scope (change state)

theorem resolveAll_watched (provider : Provider σ κ ι) (contents : ρ) (token : Token)
    (parameters : List (Parameter σ ρ ι)) (scope : κ) (state : σ) (deeds : List Deed) :
    resolveAll provider.watched contents token (parameters.map (·.beside)) scope (state, deeds) =
      let (arguments, scope, after) := resolveAll provider contents token parameters scope state
      (arguments, scope, after, deeds) := by
  induction parameters generalizing scope state with
  | nil => rfl
  | cons parameter rest ih =>
      simp only [List.map_cons, resolveAll, resolveOne, Parameter.resolver_beside,
        Resolver.run_watched]
      cases (parameter.resolver contents token).run provider scope state with
      | mk argument left =>
          cases argument with
          | error cause => rfl
          | ok first => simp only [ih]

/-- A watched handler settles as the handler does, and has been started unless it was stopped before
its first turn. -/
theorem Handler.settleFrom_watched (handler : Handler σ ρ ι) (arguments : List (Argument ρ ι))
    (stops : σ → Bool) (others : Nat → σ → σ) (ready : σ) (deeds : List Deed) :
    (handler.watched.run arguments).settleFrom (fun state => stops state.1)
        (fun turn => Prod.map (others turn) id) (ready, deeds) =
      let settled := (handler.run arguments).settleFrom stops others ready
      (settled.1, settled.2.1, settled.2.2,
        if stops ready then deeds else deeds ++ [.started]) := by
  simp only [Activity.settleFrom]
  by_cases hStops : stops ready = true
  · simp only [hStops, if_true]
  · simp only [hStops, Bool.false_eq_true, if_false]
    exact Activity.settleAmong_beside stops others (handler.run arguments) 0 ready
      (deeds ++ [.started])

/-! ### The ways to end -/

namespace Mediator

/-- A call ends in a turn with an answer, having done some deeds when it is watched. -/
def Ends (mediator : Mediator σ κ ρ ι) (others : Nat → σ → σ) (request : Request ρ) (token : Token)
    (state : σ) (turns : Nat) (answer : Answer) (deeds : List Deed) : Prop :=
  ∃ final, mediator.EndsIn others (.waiting request token) state turns answer final ∧
    mediator.watched.EndsIn (fun turn => Prod.map (others turn) id) (.waiting request token)
      (state, []) turns answer (final, deeds)

variable {mediator : Mediator σ κ ρ ι} {others : Nat → σ → σ} {request : Request ρ} {token : Token}
  {state : σ} {handler : Handler σ ρ ι}

theorem find?_watched_of_some (hFound : mediator.registry.find? request.type = some handler) :
    mediator.watched.registry.find? request.type = some handler.watched := by
  rw [watched, Registry.find?_watched, hFound]
  rfl

theorem ends_of_none (hNone : mediator.registry.find? request.type = none) :
    mediator.Ends others request token state 1 (.error (.noHandler request.type)) [] := by
  have hWatched : mediator.watched.registry.find? request.type = none := by
    rw [watched, Registry.find?_watched, hNone]
    rfl
  exact ⟨_, endsIn_of_start_error (start_of_none hNone),
    endsIn_of_start_error (start_of_none hWatched)⟩

theorem ends_of_cancelled (hFound : mediator.registry.find? request.type = some handler)
    (hCancelled : mediator.isCancelled token (others 0 state) = true) :
    mediator.Ends others request token state 1 (.error (.cancelled request.type)) [] :=
  ⟨_, endsIn_of_start_error (start_of_cancelled hFound hCancelled),
    endsIn_of_start_error (start_of_cancelled (find?_watched_of_some hFound) hCancelled)⟩

variable {scope scope' : κ} {opened ready : σ}

theorem isCancelled_watched_eq_false
    (hLive : mediator.isCancelled token (others 0 state) = false) (deeds : List Deed) :
    mediator.watched.isCancelled token (others 0 state, deeds) = false := hLive

theorem openScope_watched (hOpen : mediator.provider.openScope (others 0 state) = (scope, opened)) :
    mediator.watched.provider.openScope (others 0 state, []) = (scope, opened, [.opened]) := by
  simp only [watched, Provider.watched, hOpen]
  rfl

theorem ends_of_unresolved (hFound : mediator.registry.find? request.type = some handler)
    (hLive : mediator.isCancelled token (others 0 state) = false)
    (hOpen : mediator.provider.openScope (others 0 state) = (scope, opened)) {cause : ResolveError}
    (hAll : resolveAll mediator.provider request.contents token handler.parameters scope opened =
      (.error cause, scope', ready)) :
    mediator.Ends others request token state 1 (.error (.unresolved request.type cause))
      [.opened, .closed] := by
  have hWatched : resolveAll mediator.watched.provider request.contents token
      handler.watched.parameters scope (opened, [.opened]) =
        (.error cause, scope', ready, [.opened]) := by
    rw [watched, Handler.watched, resolveAll_watched, hAll]
  exact ⟨_, endsIn_of_start_error (start_of_unresolved hFound hLive hOpen hAll),
    endsIn_of_start_error (start_of_unresolved (find?_watched_of_some hFound)
      (isCancelled_watched_eq_false hLive []) (openScope_watched hOpen) hWatched)⟩

/-- A call whose handler gets its arguments ends as the handler settles; its scope is opened before
and closed after that. -/
theorem ends_of_resolved (hFound : mediator.registry.find? request.type = some handler)
    (hLive : mediator.isCancelled token (others 0 state) = false)
    (hOpen : mediator.provider.openScope (others 0 state) = (scope, opened))
    {arguments : List (Argument ρ ι)}
    (hAll : resolveAll mediator.provider request.contents token handler.parameters scope opened =
      (.ok arguments, scope', ready)) :
    let settled := (handler.run arguments).settleFrom (mediator.isCancelled token) others ready
    mediator.Ends others request token state settled.2.1 (answerOf request.type settled.1)
      (if mediator.isCancelled token ready then [.opened, .closed]
        else [.opened, .started, .closed]) := by
  have hWatched : resolveAll mediator.watched.provider request.contents token
      handler.watched.parameters scope (opened, [.opened]) =
        (.ok arguments, scope', ready, [.opened]) := by
    rw [watched, Handler.watched, resolveAll_watched, hAll]
  have hEnds := endsIn_of_start_ok (fun turn => Prod.map (others turn) id) (state, [])
    (start_of_resolved (find?_watched_of_some hFound)
      (isCancelled_watched_eq_false hLive []) (openScope_watched hOpen) hWatched)
  have hSettled := handler.settleFrom_watched arguments (mediator.isCancelled token) others ready
    [.opened]
  refine ⟨_, endsIn_of_start_ok others state (start_of_resolved hFound hLive hOpen hAll), ?_⟩
  simp only [watched] at hEnds hSettled
  rw [hSettled] at hEnds
  by_cases hCancelled : mediator.isCancelled token ready = true
  · simp only [hCancelled, if_true] at hEnds ⊢
    exact hEnds
  · simp only [hCancelled, Bool.false_eq_true, if_false] at hEnds ⊢
    exact hEnds

/-- How a call ends whose request a handler takes; `first` is the state at the first turn. -/
structure EndsAs (mediator : Mediator σ κ ρ ι) (handler : Handler σ ρ ι) (others : Nat → σ → σ)
    (request : Request ρ) (token : Token) (first : σ) (turns : Nat) (answer : Answer)
    (deeds : List Deed) : Prop where
  /-- If the token has been cancelled before, nothing is done at all. -/
  cancelled_before : mediator.isCancelled token first = true →
    answer = .error (.cancelled request.type) ∧ deeds = []
  /-- Else it is told why there is no argument for the first parameter that is not resolved, and the
  handler is not started. -/
  unresolved : mediator.isCancelled token first = false → ∀ cause,
    FirstUnresolved mediator.provider request.contents token handler.parameters
        (mediator.provider.openScope first).1 (mediator.provider.openScope first).2 cause →
      answer = .error (.unresolved request.type cause) ∧ .started ∉ deeds
  /-- Else the handler has its arguments.  The call is cancelled exactly if the token is found
  cancelled where one of the handler's turns starts, and else ends as the handler does. -/
  resolved : mediator.isCancelled token first = false →
    (∀ cause, ¬ FirstUnresolved mediator.provider request.contents token handler.parameters
        (mediator.provider.openScope first).1 (mediator.provider.openScope first).2 cause) →
      ∃ arguments scope ready,
        resolveAll mediator.provider request.contents token handler.parameters
            (mediator.provider.openScope first).1 (mediator.provider.openScope first).2 =
          (.ok arguments, scope, ready) ∧
        turns = min
          (((handler.run arguments).starts others ready).findIdx (mediator.isCancelled token) + 1)
          ((handler.run arguments).starts others ready).length ∧
        (answer = .error (.cancelled request.type) ↔
          ∃ start ∈ (handler.run arguments).starts others ready,
            mediator.isCancelled token start = true) ∧
        ((∀ start ∈ (handler.run arguments).starts others ready,
            mediator.isCancelled token start = false) →
          answer = .ofOutcome ((handler.run arguments).outcome others ready))

/-- The deeds of a call that leaves no scope open and starts its handler once at most. -/
structure Tidy (deeds : List Deed) : Prop where
  balanced : deeds.count .opened = deeds.count .closed
  started_le_one : deeds.count .started ≤ 1

theorem ofOutcome_ne_cancelled (outcome : Outcome) (request : String) :
    Answer.ofOutcome outcome ≠ .error (.cancelled request) := by
  cases outcome with
  | ok value => simp [Answer.ofOutcome, Except.mapError]
  | error failure => simp [Answer.ofOutcome, Except.mapError]

theorem ofOutcome_ne_noHandler (outcome : Outcome) (request : String) :
    Answer.ofOutcome outcome ≠ .error (.noHandler request) := by
  cases outcome with
  | ok value => simp [Answer.ofOutcome, Except.mapError]
  | error failure => simp [Answer.ofOutcome, Except.mapError]

theorem answerOf_ne_noHandler (request : String) (outcome : Option Outcome) (other : String) :
    answerOf request outcome ≠ .error (.noHandler other) := by
  cases outcome with
  | none => simp [answerOf]
  | some outcome => exact ofOutcome_ne_noHandler outcome other

theorem answerOf_eq_cancelled_iff (request : String) (outcome : Option Outcome) :
    answerOf request outcome = .error (.cancelled request) ↔ outcome = none := by
  cases outcome with
  | none => simp [answerOf]
  | some outcome => simp [answerOf, ofOutcome_ne_cancelled]

variable (others token state) in
/-- A call whose request a handler takes ends in one of the four ways that are left to it. -/
theorem exists_ends_of_some (hFound : mediator.registry.find? request.type = some handler) :
    ∃ turns answer deeds, mediator.Ends others request token state turns answer deeds ∧
      Tidy deeds ∧ (∀ name, answer ≠ .error (.noHandler name)) ∧
      mediator.EndsAs handler others request token (others 0 state) turns answer deeds := by
  cases hCancelled : mediator.isCancelled token (others 0 state) with
  | true =>
      refine ⟨_, _, _, ends_of_cancelled hFound hCancelled, ⟨rfl, Nat.zero_le _⟩, by simp, ?_⟩
      exact
        { cancelled_before := fun _ => ⟨rfl, rfl⟩
          unresolved := fun hLive => absurd (hCancelled.symm.trans hLive) nofun
          resolved := fun hLive => absurd (hCancelled.symm.trans hLive) nofun }
  | false =>
      have hFirst := resolveAll_eq_error_iff mediator.provider request.contents token
        handler.parameters (mediator.provider.openScope (others 0 state)).1
        (mediator.provider.openScope (others 0 state)).2
      cases hAll : resolveAll mediator.provider request.contents token handler.parameters
          (mediator.provider.openScope (others 0 state)).1
          (mediator.provider.openScope (others 0 state)).2 with
      | mk result left =>
          obtain ⟨scope, ready⟩ := left
          rw [hAll] at hFirst
          cases result with
          | error cause =>
              refine ⟨_, _, _, ends_of_unresolved hFound hCancelled rfl hAll,
                ⟨rfl, Nat.zero_le _⟩, by simp, ?_⟩
              refine ⟨fun hTrue => absurd (hCancelled.symm.trans hTrue) nofun, ?_, ?_⟩
              · intro _ other hOther
                obtain rfl := Except.error.inj ((hFirst other).mpr hOther)
                exact ⟨rfl, by decide⟩
              · intro _ hNone
                exact absurd ((hFirst cause).mp rfl) (hNone cause)
          | ok arguments =>
              refine ⟨_, _, _, ends_of_resolved hFound hCancelled rfl hAll, ?_,
                answerOf_ne_noHandler _ _, ?_⟩
              · split_ifs
                · exact ⟨rfl, Nat.zero_le _⟩
                · exact ⟨rfl, Nat.le_refl _⟩
              · refine ⟨fun hTrue => absurd (hCancelled.symm.trans hTrue) nofun, ?_, ?_⟩
                · intro _ cause hCause
                  exact nomatch (hFirst cause).mpr hCause
                · intro _ _
                  refine ⟨arguments, scope, ready, hAll, Activity.settleFrom_turns _ _ _ _, ?_, ?_⟩
                  · rw [answerOf_eq_cancelled_iff, Activity.settleFrom_result]
                    simp
                  · intro hNever
                    rw [Activity.settleFrom_result, if_neg (by simpa using hNever)]
                    rfl

/-- A call that nobody disturbs is answered by `dispatch` as it ends. -/
theorem dispatch_of_ends {turns : Nat} {answer : Answer} {deeds : List Deed}
    (hEnds : mediator.Ends (fun _ => id) request token state turns answer deeds) :
    ∃ final, mediator.dispatch request token state = (answer, turns, final) ∧
      mediator.watched.dispatch request token (state, []) = (answer, turns, final, deeds) := by
  obtain ⟨final, hOwn, hWatched⟩ := hEnds
  have hDispatch := endsIn_dispatch mediator request token state
  have hOther := endsIn_dispatch mediator.watched request token (state, [])
  obtain ⟨rfl, rfl, rfl⟩ := hOwn.unique hDispatch
  obtain ⟨hTurns, hAnswer, hFinal⟩ := hWatched.unique hOther
  exact ⟨_, rfl, Prod.ext hAnswer.symm (Prod.ext hTurns.symm hFinal.symm)⟩

end Mediator

/-- Whichever handlers are registered, whatever provider they depend on and whatever happens between
two turns, every call ends.  It ends without a handler exactly if none was registered for the type
of its request, and else as the first of those that were (`Mediator.EndsAs`); and it closes as many
scopes as it opens and starts its handler once at most. -/
theorem every_call_ends (handlers : List (Handler σ ρ ι)) (provider : Provider σ κ ι)
    (isCancelled : Token → σ → Bool) (others : Nat → σ → σ) (request : Request ρ) (token : Token)
    (state : σ) :
    let mediator : Mediator σ κ ρ ι := ⟨.ofAttempts handlers, provider, isCancelled⟩
    ∃ turns answer deeds, mediator.Ends others request token state turns answer deeds ∧
      deeds.count .opened = deeds.count .closed ∧ deeds.count .started ≤ 1 ∧
      (answer = .error (.noHandler request.type) ↔
        ∀ handler ∈ handlers, handler.request.name ≠ request.type) ∧
      ∀ handler, handlers.find? (fun handler => handler.request.name == request.type) =
          some handler →
        mediator.EndsAs handler others request token (others 0 state) turns answer deeds := by
  intro mediator
  have hFind : mediator.registry.find? request.type =
      handlers.find? fun handler => handler.request.name == request.type :=
    Registry.find?_ofAttempts handlers request.type
  have hNone : mediator.registry.find? request.type = none ↔
      ∀ handler ∈ handlers, handler.request.name ≠ request.type := by
    rw [hFind, List.find?_eq_none]
    simp
  cases hFound : mediator.registry.find? request.type with
  | none =>
      refine ⟨_, _, _, Mediator.ends_of_none hFound, rfl, Nat.zero_le _, ?_, ?_⟩
      · exact iff_of_true rfl (hNone.mp hFound)
      · intro handler hHandler
        exact nomatch (hFound.symm.trans hFind).trans hHandler
  | some handler =>
      obtain ⟨turns, answer, deeds, hEnds, hTidy, hAnswer, hAs⟩ :=
        Mediator.exists_ends_of_some others token state hFound
      refine ⟨turns, answer, deeds, hEnds, hTidy.balanced, hTidy.started_le_one, ?_, ?_⟩
      · refine iff_of_false (hAnswer _) fun hAbsent => ?_
        exact nomatch (hNone.mpr hAbsent).symm.trans hFound
      · intro other hOther
        obtain rfl := Option.some.inj ((hFound.symm.trans hFind).trans hOther)
        exact hAs

/-- A handler that depends on a clock and gives way twice. -/
def sampleWait : Handler Nat Unit Nat where
  request := ⟨"Wait", fun _ => .ok (), fun _ => .ok (), fun _ => .ok ()⟩
  response := "()"
  kind := .command
  parameters := [.service "Clock", .request]
  run _ := .pause id fun _ => .pause id fun _ => .done (.ok .null)

/-- The state is the time; it passes between turns, and each token is cancelled at its own time. -/
def sampleMediator : Mediator Nat (Scope Nat Nat) Unit Nat :=
  ⟨.ofAttempts [sampleWait, sampleWait], (Services.ofCalls sampleCalls).provider,
    fun token now => decide (token ≤ now)⟩

/-- A call whose token is cancelled at time 2 is cancelled in the second of its three turns. -/
theorem sample_call_ends : ∃ deeds,
    sampleMediator.Ends (fun _ => (· + 1)) ⟨"Wait", ()⟩ 2 0 2 (.error (.cancelled "Wait")) deeds ∧
      deeds.count .opened = deeds.count .closed := by
  obtain ⟨turns, answer, deeds, hEnds, hBalanced, -, -, hAs⟩ :=
    every_call_ends [sampleWait, sampleWait] (Services.ofCalls sampleCalls).provider
      (fun token now => decide (token ≤ now)) (fun _ => (· + 1)) ⟨"Wait", ()⟩ 2 0
  have hResolved : ∀ cause, ¬ FirstUnresolved (Services.ofCalls sampleCalls).provider () 2
      sampleWait.parameters (Scope.ofServices (Services.ofCalls sampleCalls)) 1 cause :=
    fun cause hFirst => nomatch (resolveAll_eq_error_iff _ () 2 sampleWait.parameters _ _ cause).mpr
      hFirst
  obtain ⟨arguments, scope, ready, hAll, hTurns, hCancelled, -⟩ :=
    (hAs sampleWait rfl).resolved rfl hResolved
  obtain rfl : 1 = ready := congrArg (·.2.2) hAll
  have hSecond : 2 ∈ (sampleWait.run arguments).starts (fun _ => (· + 1)) 1 :=
    List.mem_cons_of_mem _ List.mem_cons_self
  obtain rfl : answer = .error (.cancelled "Wait") := hCancelled.mpr ⟨2, hSecond, rfl⟩
  obtain rfl : turns = 2 := hTurns
  exact ⟨deeds, hEnds, hBalanced⟩

end Dispatch
end Switchboard
