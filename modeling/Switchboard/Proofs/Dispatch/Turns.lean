import Switchboard.Dispatch.Mediator

/-!
# Calls turn by turn

A call is given one turn after another, and between two turns others are at work on the state.
What a handler would do if it were never dropped is its course (`Activity.course`): the states in
which its turns start, and what it ends with.  A call whose handler has its arguments ends with the
course, unless the token is found cancelled in one of these states; then it ends in the turn that
would start there (`Mediator.endsIn_of_turn`).  `dispatch` is the case in which nobody else is at
work.

Handlers that wait for ever are not settled here, but each of them agrees, up to any turn, with one
that ends later; so what is said about a call that has not ended yet is said of them too.
-/

namespace Switchboard
namespace Dispatch

variable {σ κ ρ ι α γ : Type}

/-! ### The course of an activity -/

namespace Activity

/-- All turns from one that is under way, of which `turns` are over, unless the activity is dropped;
`others n` is what others do to the state after the first `n` turns. -/
def settleAmong (stops : σ → Bool) (others : Nat → σ → σ) :
    Activity σ α → Nat → σ → Option α × Nat × σ
  | .done result, turns, state => (some result, turns + 1, state)
  | .act change next, turns, state => (next state).settleAmong stops others turns (change state)
  | .pause onDrop next, turns, state =>
    let state := others (turns + 1) state
    if stops state then (none, turns + 2, onDrop state)
    else (next state).settleAmong stops others (turns + 1) state

/-- The states in which the further turns of an activity start that is never dropped, and what it
ends with. -/
def course (others : Nat → σ → σ) : Activity σ α → Nat → σ → List σ × α
  | .done result, _, _ => ([], result)
  | .act change next, turns, state => (next state).course others turns (change state)
  | .pause _ next, turns, state =>
    let state := others (turns + 1) state
    let (starts, result) := (next state).course others (turns + 1) state
    (state :: starts, result)

theorem settle_eq_settleAmong (stops : σ → Bool) (activity : Activity σ α) (turns : Nat)
    (state : σ) :
    activity.settle stops turns state = activity.settleAmong stops (fun _ => id) turns state := by
  induction activity generalizing turns state with
  | done result => rfl
  | act change next ih => exact ih state turns (change state)
  | pause onDrop next ih =>
      simp only [settle, settleAmong, id_eq]
      split
      · rfl
      · exact ih state (turns + 1) state

/-- An activity that is not stopped at the start of a turn ends as in its course, and one that is
stopped has no result. -/
theorem settleAmong_result (stops : σ → Bool) (others : Nat → σ → σ) (activity : Activity σ α)
    (turns : Nat) (state : σ) :
    (activity.settleAmong stops others turns state).1 =
      if (activity.course others turns state).1.any stops then none
      else some (activity.course others turns state).2 := by
  induction activity generalizing turns state with
  | done result => rfl
  | act change next ih => exact ih state turns (change state)
  | pause onDrop next ih =>
      simp only [settleAmong, course, List.any_cons]
      by_cases hStops : stops (others (turns + 1) state) = true
      · simp [hStops]
      · simp [hStops, ih]

/-- The last turn is the first one that starts in a state that stops the activity, or the last of
its course. -/
theorem settleAmong_turns (stops : σ → Bool) (others : Nat → σ → σ) (activity : Activity σ α)
    (turns : Nat) (state : σ) :
    (activity.settleAmong stops others turns state).2.1 =
      turns + 1 + min ((activity.course others turns state).1.findIdx stops + 1)
        (activity.course others turns state).1.length := by
  induction activity generalizing turns state with
  | done result => simp [settleAmong, course]
  | act change next ih => exact ih state turns (change state)
  | pause onDrop next ih =>
      simp only [settleAmong, course, List.findIdx_cons, List.length_cons]
      by_cases hStops : stops (others (turns + 1) state) = true
      · simp [hStops]
      · simp only [hStops, Bool.false_eq_true, if_false, cond_false, ih]
        omega

/-- All turns of an activity that is ready for its first one, unless it is dropped before. -/
def settleFrom (stops : σ → Bool) (others : Nat → σ → σ) (activity : Activity σ α) (ready : σ) :
    Option α × Nat × σ :=
  if stops ready then (none, 1, ready) else activity.settleAmong stops others 0 ready

/-- The states in which the turns of an activity start, the first one included. -/
def starts (others : Nat → σ → σ) (activity : Activity σ α) (ready : σ) : List σ :=
  ready :: (activity.course others 0 ready).1

/-- What an activity ends with that is never dropped. -/
def outcome (others : Nat → σ → σ) (activity : Activity σ α) (ready : σ) : α :=
  (activity.course others 0 ready).2

theorem settleFrom_result (stops : σ → Bool) (others : Nat → σ → σ) (activity : Activity σ α)
    (ready : σ) :
    (activity.settleFrom stops others ready).1 =
      if (activity.starts others ready).any stops then none
      else some (activity.outcome others ready) := by
  simp only [settleFrom, starts, outcome, List.any_cons]
  by_cases hStops : stops ready = true
  · simp [hStops]
  · simp [hStops, settleAmong_result]

theorem settleFrom_turns (stops : σ → Bool) (others : Nat → σ → σ) (activity : Activity σ α)
    (ready : σ) :
    (activity.settleFrom stops others ready).2.1 =
      min ((activity.starts others ready).findIdx stops + 1)
        (activity.starts others ready).length := by
  simp only [settleFrom, starts, List.findIdx_cons, List.length_cons]
  by_cases hStops : stops ready = true
  · simp [hStops]
  · simp only [hStops, Bool.false_eq_true, if_false, cond_false, settleAmong_turns]
    omega

/-! ### What is done beside something else -/

/-- An activity beside something that it leaves alone. -/
def beside : Activity σ α → Activity (σ × γ) α
  | .done result => .done result
  | .act change next => .act (Prod.map change id) fun state => (next state.1).beside
  | .pause onDrop next => .pause (Prod.map onDrop id) fun state => (next state.1).beside

theorem settleAmong_beside (stops : σ → Bool) (others : Nat → σ → σ) (activity : Activity σ α)
    (turns : Nat) (state : σ) (kept : γ) :
    (activity.beside : Activity (σ × γ) α).settleAmong (fun state => stops state.1)
        (fun turn => Prod.map (others turn) id) turns (state, kept) =
      ((activity.settleAmong stops others turns state).1,
        (activity.settleAmong stops others turns state).2.1,
        ((activity.settleAmong stops others turns state).2.2, kept)) := by
  induction activity generalizing turns state with
  | done result => rfl
  | act change next ih => exact ih state turns (change state)
  | pause onDrop next ih =>
      simp only [beside, settleAmong, Prod.map_apply, id_eq]
      by_cases hStops : stops (others (turns + 1) state) = true
      · simp [hStops]
      · simp only [hStops]
        exact ih _ (turns + 1) _

end Activity

/-- A resolver beside something that it leaves alone. -/
def Resolver.beside : Resolver σ ι α → Resolver (σ × γ) ι α
  | .done result => .done result
  | .ask type next => .ask type fun found => (next found).beside
  | .act change next => .act (Prod.map change id) fun state => (next state.1).beside

/-- A parameter whose argument is drawn beside something that is left alone. -/
def Parameter.beside : Parameter σ ρ ι → Parameter (σ × γ) ρ ι
  | .request => .request
  | .service type => .service type
  | .token => .token
  | .custom needs draw => .custom needs fun token => (draw token).beside

theorem Parameter.resolver_beside (parameter : Parameter σ ρ ι) (contents : ρ) (token : Token) :
    (parameter.beside : Parameter (σ × γ) ρ ι).resolver contents token =
      (parameter.resolver contents token).beside := by
  cases parameter with
  | request => rfl
  | service type => rfl
  | token => rfl
  | custom needs draw => rfl

/-! ### The turns of a call -/

namespace Mediator

/-- What is left of a call after some turns, where `others n` is what others do to the state after
the first `n` of them. -/
def afterTurns (mediator : Mediator σ κ ρ ι) (others : Nat → σ → σ) (call : Call σ κ ρ)
    (state : σ) : Nat → (Answer ⊕ Call σ κ ρ) × σ
  | 0 => (.inr call, state)
  | turns + 1 =>
    match mediator.afterTurns others call state turns with
    | (.inl answer, state) => (.inl answer, state)
    | (.inr call, state) => mediator.poll call (others turns state)

/-- The call ends in the last of `turns` turns, with this answer and in this state. -/
structure EndsIn (mediator : Mediator σ κ ρ ι) (others : Nat → σ → σ) (call : Call σ κ ρ)
    (state : σ) (turns : Nat) (answer : Answer) (final : σ) : Prop where
  pending : ∀ n < turns, (mediator.afterTurns others call state n).1.isRight = true
  ended : ∀ n ≥ turns, mediator.afterTurns others call state n = (.inl answer, final)

variable {mediator : Mediator σ κ ρ ι} {others : Nat → σ → σ} {call : Call σ κ ρ} {state : σ}

theorem afterTurns_succ_of_ended {turns : Nat} {answer : Answer} {final : σ}
    (hEnded : mediator.afterTurns others call state turns = (.inl answer, final)) :
    mediator.afterTurns others call state (turns + 1) = (.inl answer, final) := by
  simp only [afterTurns, hEnded]

/-- A call that is there after some turns was there after fewer. -/
theorem isRight_of_le {turns later : Nat} (hLe : turns ≤ later)
    (hRight : (mediator.afterTurns others call state later).1.isRight = true) :
    (mediator.afterTurns others call state turns).1.isRight = true := by
  induction hLe with
  | refl => exact hRight
  | @step later hLe ih =>
      apply ih
      cases hLeft : mediator.afterTurns others call state later with
      | mk left final =>
          cases left with
          | inl answer =>
              rw [afterTurns_succ_of_ended hLeft] at hRight
              simp at hRight
          | inr call => rfl

theorem ended_of_le {turns later : Nat} {answer : Answer} {final : σ} (hLe : turns ≤ later)
    (hEnded : mediator.afterTurns others call state turns = (.inl answer, final)) :
    mediator.afterTurns others call state later = (.inl answer, final) := by
  induction hLe with
  | refl => exact hEnded
  | step _ ih => exact afterTurns_succ_of_ended ih

/-- A call that is there after some turns and has ended after the next one ends in that turn. -/
theorem endsIn_succ {turns : Nat} {answer : Answer} {final : σ}
    (hPending : (mediator.afterTurns others call state turns).1.isRight = true)
    (hEnded : mediator.afterTurns others call state (turns + 1) = (.inl answer, final)) :
    mediator.EndsIn others call state (turns + 1) answer final where
  pending _ hLess := isRight_of_le (Nat.le_of_lt_succ hLess) hPending
  ended _ hLe := ended_of_le hLe hEnded

/-- Of one call there is only one answer. -/
theorem EndsIn.unique {turns turns' : Nat} {answer answer' : Answer} {final final' : σ}
    (hEnds : mediator.EndsIn others call state turns answer final)
    (hEnds' : mediator.EndsIn others call state turns' answer' final') :
    turns = turns' ∧ answer = answer' ∧ final = final' := by
  have hTurns : turns = turns' := by
    rcases Nat.lt_trichotomy turns turns' with hLess | hSame | hMore
    · have hRight := hEnds'.pending turns hLess
      simp [hEnds.ended turns (Nat.le_refl _)] at hRight
    · exact hSame
    · have hRight := hEnds.pending turns' hMore
      simp [hEnds'.ended turns' (Nat.le_refl _)] at hRight
  subst hTurns
  have hSame := (hEnds.ended turns (Nat.le_refl _)).symm.trans (hEnds'.ended turns (Nat.le_refl _))
  simpa using hSame

/-! ### A call whose handler is at work -/

/-- What a turn of the handler makes of its call. -/
def ofTurn (mediator : Mediator σ κ ρ ι) (request : String) (token : Token) (scope : κ) :
    Turn σ Outcome × σ → (Answer ⊕ Call σ κ ρ) × σ
  | (.ended outcome, state) =>
    (.inl (.ofOutcome outcome), mediator.provider.closeScope scope state)
  | (.paused onDrop next, state) => (.inr (.running ⟨request, token, scope, onDrop, next⟩), state)

theorem poll_running (running : Running σ κ) (state : σ) :
    mediator.poll (.running running : Call σ κ ρ) state =
      if mediator.isCancelled running.token state then
        (.inl (.error (.cancelled running.request)),
          mediator.provider.closeScope running.scope (running.onDrop state))
      else
        mediator.ofTurn running.request running.token running.scope
          ((running.next state).turn state) := by
  simp only [poll, advance]
  by_cases hCancelled : mediator.isCancelled running.token state = true
  · simp only [hCancelled, if_true]
  · simp only [hCancelled, Bool.false_eq_true, if_false]
    cases (running.next state).turn state with
    | mk left final =>
        cases left with
        | ended outcome => rfl
        | paused onDrop next => rfl

/-- The answer of a call whose handler settles: its outcome, or that the call was cancelled. -/
def answerOf (request : String) (outcome : Option Outcome) : Answer :=
  outcome.elim (.error (.cancelled request)) .ofOutcome

/-- A call whose handler takes its turn now ends as the handler settles, and then its scope is
closed. -/
theorem endsIn_of_turn {request : String} {token : Token} {scope : κ}
    {activity : Activity σ Outcome} {turns : Nat} {start : σ}
    (hPending : (mediator.afterTurns others call state turns).1.isRight = true)
    (hTurn : mediator.afterTurns others call state (turns + 1) =
      mediator.ofTurn request token scope (activity.turn start)) :
    let settled := activity.settleAmong (mediator.isCancelled token) others turns start
    mediator.EndsIn others call state settled.2.1 (answerOf request settled.1)
      (mediator.provider.closeScope scope settled.2.2) := by
  -- By induction on the activity: a pause leaves a running call, which is polled once more.
  induction activity generalizing turns start with
  | done outcome => exact endsIn_succ hPending hTurn
  | act change next ih => exact ih start hPending hTurn
  | pause onDrop next ih =>
      have hRunning : mediator.afterTurns others call state (turns + 1) =
          (.inr (.running ⟨request, token, scope, onDrop, next⟩), start) := hTurn
      have hRight : (mediator.afterTurns others call state (turns + 1)).1.isRight = true := by
        rw [hRunning]
        rfl
      have hPoll : mediator.afterTurns others call state (turns + 2) =
          mediator.poll (.running ⟨request, token, scope, onDrop, next⟩)
            (others (turns + 1) start) := by
        rw [afterTurns, hRunning]
      rw [poll_running] at hPoll
      simp only [Activity.settleAmong]
      by_cases hCancelled : mediator.isCancelled token (others (turns + 1) start) = true
      · rw [if_pos hCancelled] at hPoll ⊢
        exact endsIn_succ hRight hPoll
      · rw [if_neg hCancelled] at hPoll ⊢
        exact ih _ hRight hPoll

/-! ### A call from its first turn -/

variable {request : Request ρ} {token : Token}

/-- A call ends at once if the handler cannot be started. -/
theorem endsIn_of_start_error {error : DispatchError} {final : σ}
    (hStart : mediator.start request token (others 0 state) = (.error error, final)) :
    mediator.EndsIn others (.waiting request token) state 1 (.error error) final := by
  refine endsIn_succ rfl ?_
  simp only [afterTurns, poll, hStart]

variable (others state) in
/-- A call whose handler is started ends as the handler settles, and then its scope is closed. -/
theorem endsIn_of_start_ok {scope : κ} {activity : Activity σ Outcome} {ready : σ}
    (hStart : mediator.start request token (others 0 state) = (.ok (scope, activity), ready)) :
    let settled := activity.settleFrom (mediator.isCancelled token) others ready
    mediator.EndsIn others (.waiting request token) state settled.2.1
      (answerOf request.type settled.1) (mediator.provider.closeScope scope settled.2.2) := by
  -- The first turn is one of a running call that has been given its arguments.
  have hPoll : mediator.afterTurns others (.waiting request token) state 1 =
      mediator.poll (.running ⟨request.type, token, scope, id, fun _ => activity⟩) ready := by
    simp only [afterTurns, poll, hStart]
  rw [poll_running] at hPoll
  simp only [Activity.settleFrom]
  by_cases hCancelled : mediator.isCancelled token ready = true
  · rw [if_pos hCancelled] at hPoll ⊢
    exact endsIn_succ rfl hPoll
  · rw [if_neg hCancelled] at hPoll ⊢
    exact endsIn_of_turn rfl hPoll

/-- What `dispatch` hands back is how the call ends if nobody else is at work. -/
theorem endsIn_dispatch (mediator : Mediator σ κ ρ ι) (request : Request ρ) (token : Token)
    (state : σ) :
    let (answer, turns, final) := mediator.dispatch request token state
    mediator.EndsIn (fun _ => id) (.waiting request token) state turns answer final := by
  unfold dispatch
  cases hStart : mediator.start request token state with
  | mk result ready =>
      cases result with
      | error error => exact endsIn_of_start_error hStart
      | ok started =>
          obtain ⟨scope, activity⟩ := started
          have hEnds := endsIn_of_start_ok (fun _ => id) state hStart
          simp only [Activity.settleFrom] at hEnds
          by_cases hCancelled : mediator.isCancelled token ready = true
          · simpa [hCancelled, answerOf] using hEnds
          · simp only [hCancelled, Bool.false_eq_true, if_false,
              Activity.settle_eq_settleAmong] at hEnds ⊢
            cases hOutcome : (activity.settleAmong (mediator.isCancelled token) (fun _ => id) 0
              ready).1 with
            | none => simpa [hOutcome, answerOf] using hEnds
            | some outcome => simpa [hOutcome, answerOf] using hEnds

/-! ### The start of a call -/

theorem start_of_none (hNone : mediator.registry.find? request.type = none) :
    mediator.start request token state = (.error (.noHandler request.type), state) := by
  simp only [start, hNone]

variable {handler : Handler σ ρ ι}

theorem start_of_cancelled (hFound : mediator.registry.find? request.type = some handler)
    (hCancelled : mediator.isCancelled token state = true) :
    mediator.start request token state = (.error (.cancelled request.type), state) := by
  simp only [start, hFound, hCancelled, if_true]

variable {scope scope' : κ} {opened ready : σ}

theorem start_of_unresolved (hFound : mediator.registry.find? request.type = some handler)
    (hLive : mediator.isCancelled token state = false)
    (hOpen : mediator.provider.openScope state = (scope, opened)) {cause : ResolveError}
    (hAll : resolveAll mediator.provider request.contents token handler.parameters scope opened =
      (.error cause, scope', ready)) :
    mediator.start request token state =
      (.error (.unresolved request.type cause), mediator.provider.closeScope scope' ready) := by
  simp only [start, hFound, hLive, Bool.false_eq_true, if_false, hOpen, hAll]

/-- The handler that is found for a request takes it. -/
theorem start_of_resolved (hFound : mediator.registry.find? request.type = some handler)
    (hLive : mediator.isCancelled token state = false)
    (hOpen : mediator.provider.openScope state = (scope, opened))
    {arguments : List (Argument ρ ι)}
    (hAll : resolveAll mediator.provider request.contents token handler.parameters scope opened =
      (.ok arguments, scope', ready)) :
    mediator.start request token state = (.ok (scope', handler.run arguments), ready) := by
  have hType : request.type = handler.request.name := by
    have hName := List.find?_some hFound
    exact (beq_iff_eq.mp hName).symm
  have hHandle : handler.handle request arguments = some (handler.run arguments) := if_pos hType
  simp only [start, hFound, hLive, Bool.false_eq_true, if_false, hOpen, hAll, hHandle]

end Mediator
end Dispatch
end Switchboard
