import Switchboard.Proofs.Dispatch.Turns
import Mathlib.Logic.Function.Basic
import Mathlib.Logic.Relation

/-!
# Many calls at once

Any number of parties use one mediator at the same time: calls, and scopes that were opened by hand
and are asked for whatever types somebody wants (`Party`).  A call goes in steps that are smaller
than its turns.  One step opens its scope, each service is asked for in a step of its own, and each
change that a resolver or its handler makes to the state is one.  Whatever comes between two steps
of a party, be it steps of others or other changes of the state, is a list of moves, and any list of
moves can be played (`Mediator.play`).

Small steps do nothing that turns do not do: if nobody comes between them they lead from each call
to what its next turn leaves (`Mediator.reaches_poll`).
-/

namespace Switchboard
namespace Dispatch

variable {σ κ ρ ι : Type}

/-- Someone who uses a mediator. -/
inductive Party (σ κ ρ ι : Type) where
  /-- A scope that was opened by hand, and what it has given. -/
  | holding (scope : κ) (given : List (Option (Instance ι)))
  | waiting (request : Request ρ) (token : Token)
  /-- A call in its first turn, with the arguments it has been given and the resolvers of those it has
  not, the first of which may be at work. -/
  | binding (handler : Handler σ ρ ι) (request : Request ρ) (token : Token)
    (given : List (Argument ρ ι)) (rest : List (Resolver σ ι (Argument ρ ι))) (scope : κ)
  /-- A call in the middle of a turn of its handler. -/
  | acting (request : String) (token : Token) (scope : κ) (activity : Activity σ Outcome)
  /-- A call with its arguments, between two turns. -/
  | running (running : Running σ κ)
  | ended (answer : Answer)

namespace Party

/-- The scope that a party has open. -/
def scope? : Party σ κ ρ ι → Option κ
  | .holding scope _ => some scope
  | .waiting _ _ => none
  | .binding _ _ _ _ _ scope => some scope
  | .acting _ _ scope _ => some scope
  | .running active => some active.scope
  | .ended _ => none

def ofCall : Call σ κ ρ → Party σ κ ρ ι
  | .waiting request token => .waiting request token
  | .running active => .running active

/-- What a turn leaves. -/
def ofLeft : Answer ⊕ Call σ κ ρ → Party σ κ ρ ι
  | .inl answer => .ended answer
  | .inr call => ofCall call

end Party

/-- What can be done at a place, where a party may be. -/
inductive Act (ρ : Type) where
  | openScope
  /-- The scope that is held there is asked for a type. -/
  | resolve (type : String)
  | call (request : Request ρ) (token : Token)
  | step
  /-- The party is dropped, unless it is in the middle of a turn. -/
  | leave

/-- One of the things that are done one after another. -/
inductive Move (σ ρ : Type) where
  | act (place : Nat) (act : Act ρ)
  /-- A change of the state by someone who is no party. -/
  | change (change : σ → σ)

/-- All parties, by their places, and the state that they share. -/
structure Arena (σ κ ρ ι : Type) where
  state : σ
  parties : Nat → Option (Party σ κ ρ ι)

def Arena.empty (state : σ) : Arena σ κ ρ ι := ⟨state, fun _ => none⟩

/-- How the arguments of a handler are drawn, in the order of its parameters. -/
def Handler.resolvers (handler : Handler σ ρ ι) (contents : ρ) (token : Token) :
    List (Resolver σ ι (Argument ρ ι)) :=
  handler.parameters.map (·.resolver contents token)

namespace Mediator

/-- The next step of a party.  Who holds a scope does nothing by itself. -/
def step (mediator : Mediator σ κ ρ ι) : Party σ κ ρ ι → σ → Party σ κ ρ ι × σ
  | .holding scope given, state => (.holding scope given, state)
  | .waiting request token, state =>
    match mediator.registry.find? request.type with
    | none => (.ended (.error (.noHandler request.type)), state)
    | some handler =>
      if mediator.isCancelled token state then (.ended (.error (.cancelled request.type)), state)
      else
        let (scope, state) := mediator.provider.openScope state
        (.binding handler request token [] (handler.resolvers request.contents token) scope, state)
  | .binding _ request _ _ (.done (.error cause) :: _) scope, state =>
    (.ended (.error (.unresolved request.type cause)), mediator.provider.closeScope scope state)
  | .binding handler request token given (.done (.ok argument) :: rest) scope, state =>
    (.binding handler request token (given ++ [argument]) rest scope, state)
  | .binding handler request token given (.ask type next :: rest) scope, state =>
    let (found, scope, state) := mediator.provider.resolve type scope state
    (.binding handler request token given (next (Instance.as type found) :: rest) scope, state)
  | .binding handler request token given (.act change next :: rest) scope, state =>
    (.binding handler request token given (next state :: rest) scope, change state)
  | .binding handler request token given [] scope, state =>
    match handler.handle request given with
    | none =>
      (.ended (.error (.noHandler request.type)), mediator.provider.closeScope scope state)
    | some activity => (.running ⟨request.type, token, scope, id, fun _ => activity⟩, state)
  | .acting _ _ scope (.done outcome), state =>
    (.ended (.ofOutcome outcome), mediator.provider.closeScope scope state)
  | .acting request token scope (.act change next), state =>
    (.acting request token scope (next state), change state)
  | .acting request token scope (.pause onDrop next), state =>
    (.running ⟨request, token, scope, onDrop, next⟩, state)
  | .running running, state =>
    if mediator.isCancelled running.token state then
      (.ended (.error (.cancelled running.request)),
        mediator.provider.closeScope running.scope (running.onDrop state))
    else
      (.acting running.request running.token running.scope (running.next state), state)
  | .ended answer, state => (.ended answer, state)

/-! ### The steps of a turn -/

/-- A party in a state comes to another if it takes some steps and nobody comes between them. -/
def Reaches (mediator : Mediator σ κ ρ ι) : Party σ κ ρ ι × σ → Party σ κ ρ ι × σ → Prop :=
  Relation.ReflTransGen fun before after => mediator.step before.1 before.2 = after

variable {mediator : Mediator σ κ ρ ι}

theorem reaches_of_step {party : Party σ κ ρ ι} {state : σ} {middle after : Party σ κ ρ ι × σ}
    (hStep : mediator.step party state = middle) (hRest : mediator.Reaches middle after) :
    mediator.Reaches (party, state) after :=
  Relation.ReflTransGen.head hStep hRest

theorem reaches_step {party : Party σ κ ρ ι} {state : σ} {after : Party σ κ ρ ι × σ}
    (hStep : mediator.step party state = after) : mediator.Reaches (party, state) after :=
  reaches_of_step hStep Relation.ReflTransGen.refl

/-- The changes that a handler makes in a turn lead to what the turn leaves. -/
theorem reaches_ofTurn (request : String) (token : Token) (scope : κ)
    (activity : Activity σ Outcome) (state : σ) :
    let left : (Answer ⊕ Call σ κ ρ) × σ :=
      mediator.ofTurn request token scope (activity.turn state)
    mediator.Reaches (.acting request token scope activity, state) (.ofLeft left.1, left.2) := by
  induction activity generalizing state with
  | done outcome => exact reaches_step rfl
  | act change next ih => exact reaches_of_step rfl (ih state (change state))
  | pause onDrop next ih => exact reaches_step rfl

theorem reaches_poll_running (running : Running σ κ) (state : σ) :
    let left := mediator.poll (.running running : Call σ κ ρ) state
    mediator.Reaches (.running running, state) (.ofLeft left.1, left.2) := by
  rw [poll_running]
  by_cases hCancelled : mediator.isCancelled running.token state = true
  · rw [if_pos hCancelled]
    exact reaches_step (if_pos hCancelled)
  · rw [if_neg hCancelled]
    exact reaches_of_step (if_neg hCancelled) (reaches_ofTurn _ _ _ _ _)

/-- What a call is once a resolver has given its argument, or has refused it. -/
def drawn (mediator : Mediator σ κ ρ ι) (handler : Handler σ ρ ι) (request : Request ρ)
    (token : Token) (given : List (Argument ρ ι)) (rest : List (Resolver σ ι (Argument ρ ι))) :
    Except ResolveError (Argument ρ ι) × κ × σ → Party σ κ ρ ι × σ
  | (.error cause, scope, state) =>
    (.ended (.error (.unresolved request.type cause)), mediator.provider.closeScope scope state)
  | (.ok argument, scope, state) =>
    (.binding handler request token (given ++ [argument]) rest scope, state)

variable (mediator) in
/-- The steps of a resolver lead to what it comes to at once. -/
theorem reaches_drawn (handler : Handler σ ρ ι) (request : Request ρ) (token : Token)
    (given : List (Argument ρ ι)) (resolver : Resolver σ ι (Argument ρ ι))
    (rest : List (Resolver σ ι (Argument ρ ι))) (scope : κ) (state : σ) :
    mediator.Reaches (.binding handler request token given (resolver :: rest) scope, state)
      (mediator.drawn handler request token given rest
        (resolver.run mediator.provider scope state)) := by
  induction resolver generalizing scope state with
  | done result =>
      cases result with
      | error cause => exact reaches_step rfl
      | ok argument => exact reaches_step rfl
  | ask type next ih => exact reaches_of_step rfl (ih _ _ _)
  | act change next ih => exact reaches_of_step rfl (ih state scope (change state))

/-- What a call is once its parameters have been resolved as far as possible. -/
def bound (mediator : Mediator σ κ ρ ι) (handler : Handler σ ρ ι) (request : Request ρ)
    (token : Token) (given : List (Argument ρ ι)) :
    Except ResolveError (List (Argument ρ ι)) × κ × σ → Party σ κ ρ ι × σ
  | (.error cause, scope, state) =>
    (.ended (.error (.unresolved request.type cause)), mediator.provider.closeScope scope state)
  | (.ok arguments, scope, state) =>
    (.binding handler request token (given ++ arguments) [] scope, state)

variable (mediator) in
/-- Parameters that are resolved step by step come to what they come to together. -/
theorem reaches_bound (handler : Handler σ ρ ι) (request : Request ρ) (token : Token)
    (given : List (Argument ρ ι)) (parameters : List (Parameter σ ρ ι)) (scope : κ) (state : σ) :
    mediator.Reaches
      (.binding handler request token given (parameters.map (·.resolver request.contents token))
        scope, state)
      (mediator.bound handler request token given
        (resolveAll mediator.provider request.contents token parameters scope state)) := by
  -- By induction on the parameters left; each adds an argument to those that are given.
  induction parameters generalizing given scope state with
  | nil =>
      rw [resolveAll, bound, List.append_nil]
      exact Relation.ReflTransGen.refl
  | cons parameter rest ih =>
      have hDrawn := reaches_drawn mediator handler request token given
        (parameter.resolver request.contents token)
        (rest.map (·.resolver request.contents token)) scope state
      rw [resolveAll, List.map_cons, resolveOne]
      cases hOne : (parameter.resolver request.contents token).run mediator.provider scope state with
      | mk result left =>
          obtain ⟨middle, after⟩ := left
          rw [hOne] at hDrawn
          cases result with
          | error cause => exact hDrawn
          | ok first =>
              refine hDrawn.trans (show mediator.Reaches _ _ from ?_)
              have hRest := ih (given ++ [first]) middle after
              cases hAll : resolveAll mediator.provider request.contents token rest middle
                  after with
              | mk others last =>
                  rw [hAll] at hRest
                  cases others with
                  | error cause => simpa only [drawn, hAll, Except.map, bound] using hRest
                  | ok arguments =>
                      simpa only [drawn, hAll, Except.map, bound, List.append_assoc,
                        List.singleton_append] using hRest

/-- What a call is once its handler has been started, or could not be. -/
def started (request : String) (token : Token) :
    Except DispatchError (κ × Activity σ Outcome) × σ → Party σ κ ρ ι × σ
  | (.error error, state) => (.ended (.error error), state)
  | (.ok (scope, activity), state) =>
    (.running ⟨request, token, scope, id, fun _ => activity⟩, state)

variable (mediator) in
theorem reaches_started (request : Request ρ) (token : Token) (state : σ) :
    mediator.Reaches (.waiting request token, state)
      (started request.type token (mediator.start request token state)) := by
  unfold start
  cases hFound : mediator.registry.find? request.type with
  | none =>
      refine reaches_step ?_
      simp only [step, hFound, started]
  | some handler =>
      by_cases hCancelled : mediator.isCancelled token state = true
      · refine reaches_step ?_
        simp only [step, hFound, hCancelled, if_true, started]
      · cases hOpen : mediator.provider.openScope state with
        | mk scope opened =>
            have hStep : mediator.step (.waiting request token) state =
                (.binding handler request token [] (handler.resolvers request.contents token) scope,
                  opened) := by
              simp only [step, hFound, hCancelled, Bool.false_eq_true, if_false, hOpen]
            refine reaches_of_step hStep ?_
            have hBound := reaches_bound mediator handler request token []
              handler.parameters scope opened
            simp only [hCancelled, Bool.false_eq_true, if_false]
            cases hAll : resolveAll mediator.provider request.contents token handler.parameters
                scope opened with
            | mk result left =>
                rw [hAll] at hBound
                cases result with
                | error cause => exact hBound
                | ok arguments =>
                    refine hBound.trans (reaches_step ?_)
                    cases hHandle : handler.handle request arguments with
                    | none => simp only [step, List.nil_append, hHandle, started]
                    | some activity => simp only [step, List.nil_append, hHandle, started]

/-- If nobody comes between its steps, a call comes to what its next turn leaves. -/
theorem reaches_poll (call : Call σ κ ρ) (state : σ) :
    let left := mediator.poll call state
    mediator.Reaches (.ofCall call, state) (.ofLeft left.1, left.2) := by
  cases call with
  | running active => exact reaches_poll_running active state
  | waiting request token =>
      have hStarted := reaches_started mediator request token state
      cases hStart : mediator.start request token state with
      | mk result ready =>
          rw [hStart] at hStarted
          cases result with
          | error error =>
              simp only [poll, hStart]
              exact hStarted
          | ok made =>
              have hPoll : mediator.poll (.waiting request token) state =
                  mediator.poll (.running ⟨request.type, token, made.1, id, fun _ => made.2⟩)
                    ready := by
                simp only [poll, hStart]
              rw [hPoll]
              exact hStarted.trans (reaches_poll_running _ ready)

/-! ### Moves -/

def ask (mediator : Mediator σ κ ρ ι) (type : String) : Party σ κ ρ ι → σ → Party σ κ ρ ι × σ
  | .holding scope given, state =>
    let (found, scope, state) := mediator.provider.resolve type scope state
    (.holding scope (given ++ [found]), state)
  | party, state => (party, state)

def leave (mediator : Mediator σ κ ρ ι) : Party σ κ ρ ι → σ → Option (Party σ κ ρ ι) × σ
  | .holding scope _, state => (none, mediator.provider.closeScope scope state)
  | .waiting request token, state => (none, mediator.drop (.waiting request token) state)
  | .running active, state => (none, mediator.drop (.running active : Call σ κ ρ) state)
  | .ended _, state => (none, state)
  | party, state => (some party, state)

/-- What is at a place after something is done there.  A place is taken by one party at a time. -/
def act (mediator : Mediator σ κ ρ ι) : Act ρ → Option (Party σ κ ρ ι) → σ →
    Option (Party σ κ ρ ι) × σ
  | .openScope, none, state =>
    let (scope, state) := mediator.provider.openScope state
    (some (.holding scope []), state)
  | .call request token, none, state => (some (.waiting request token), state)
  | .resolve type, some party, state => (mediator.ask type party state).map some id
  | .step, some party, state => (mediator.step party state).map some id
  | .leave, some party, state => mediator.leave party state
  | _, party, state => (party, state)

def move (mediator : Mediator σ κ ρ ι) (arena : Arena σ κ ρ ι) : Move σ ρ → Arena σ κ ρ ι
  | .act place act =>
    let (party, state) := mediator.act act (arena.parties place) arena.state
    ⟨state, Function.update arena.parties place party⟩
  | .change change => { arena with state := change arena.state }

/-- What comes of all moves. -/
def play (mediator : Mediator σ κ ρ ι) (moves : List (Move σ ρ)) (arena : Arena σ κ ρ ι) :
    Arena σ κ ρ ι :=
  moves.foldl mediator.move arena

end Mediator
end Dispatch
end Switchboard
