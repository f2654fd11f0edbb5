import Switchboard.Proofs.Dispatch.Arena
import Switchboard.Proofs.Dispatch.Registry
import Mathlib.Data.Option.Basic

/-!
# Mediators with something beside their state

A mediator can be run with something beside its state of which its handlers know nothing, and with a
provider that does the same as its own and keeps what is there (`Provider.Shadows`).  Whatever
moves are played, the two then have the same parties in the same state, apart from their scopes
(`Mediator.mirrors_play`).  What is beside the state is touched only where a scope is opened, asked
or closed (`Touch`), so that what holds of it after each of these holds after all moves.
-/

namespace Switchboard
namespace Dispatch

variable {σ κ κ' ρ ι γ : Type}

/-! ### What is beside the state -/

/-- The handler, which leaves alone what is beside the state. -/
def Handler.beside (handler : Handler σ ρ ι) : Handler (σ × γ) ρ ι where
  request := handler.request
  response := handler.response
  kind := handler.kind
  parameters := handler.parameters.map (·.beside)
  run arguments := (handler.run arguments).beside

theorem Handler.resolvers_beside (handler : Handler σ ρ ι) (contents : ρ) (token : Token) :
    (handler.beside : Handler (σ × γ) ρ ι).resolvers contents token =
      (handler.resolvers contents token).map Resolver.beside := by
  simp only [resolvers, beside, List.map_map, Function.comp_def, Parameter.resolver_beside]

theorem Handler.handle_beside (handler : Handler σ ρ ι) (request : Request ρ)
    (arguments : List (Argument ρ ι)) :
    (handler.beside : Handler (σ × γ) ρ ι).handle request arguments =
      (handler.handle request arguments).map Activity.beside := by
  by_cases hType : request.type = handler.request.name
  · simp only [handle, beside, hType, if_true, Option.map_some]
  · simp only [handle, beside, hType, if_false, Option.map_none]

def Registry.beside (registry : Registry σ ρ ι) : Registry (σ × γ) ρ ι :=
  ⟨registry.handlers.map Handler.beside⟩

def Mediator.beside (mediator : Mediator σ κ ρ ι) (shadow : Provider (σ × γ) κ' ι) :
    Mediator (σ × γ) κ' ρ ι where
  registry := mediator.registry.beside
  provider := shadow
  isCancelled token state := mediator.isCancelled token state.1

def Move.beside : Move σ ρ → Move (σ × γ) ρ
  | .act place done => .act place done
  | .change alter => .change (Prod.map alter id)

theorem Registry.find?_beside (registry : Registry σ ρ ι) (request : String) :
    (registry.beside : Registry (σ × γ) ρ ι).find? request =
      (registry.find? request).map Handler.beside :=
  find?_map Handler.beside (fun _ => rfl) registry request

/-- A provider that does the same as another and keeps something beside the state, where `Same`
relates the scopes of the two.  What is beside the state is left alone when a scope is closed. -/
structure Provider.Shadows (provider : Provider σ κ ι) (shadow : Provider (σ × γ) κ' ι)
    (Same : κ → κ' → Prop) : Prop where
  openScope : ∀ state kept,
    Same (provider.openScope state).1 (shadow.openScope (state, kept)).1 ∧
      (shadow.openScope (state, kept)).2.1 = (provider.openScope state).2
  resolve : ∀ type scope scope', Same scope scope' → ∀ state kept,
    (shadow.resolve type scope' (state, kept)).1 = (provider.resolve type scope state).1 ∧
      Same (provider.resolve type scope state).2.1
        (shadow.resolve type scope' (state, kept)).2.1 ∧
      (shadow.resolve type scope' (state, kept)).2.2.1 = (provider.resolve type scope state).2.2
  closeScope : ∀ scope scope', Same scope scope' → ∀ state kept,
    shadow.closeScope scope' (state, kept) = (provider.closeScope scope state, kept)

/-- A party beside something, which is the same as another party apart from its scope. -/
inductive Party.Mirrors (Same : κ → κ' → Prop) :
    Party σ κ ρ ι → Party (σ × γ) κ' ρ ι → Prop where
  | holding (given : List (Option (Instance ι))) {scope : κ} {scope' : κ'}
      (hSame : Same scope scope') : Mirrors Same (.holding scope given) (.holding scope' given)
  | waiting (request : Request ρ) (token : Token) :
      Mirrors Same (.waiting request token) (.waiting request token)
  | binding (handler : Handler σ ρ ι) (request : Request ρ) (token : Token)
      (given : List (Argument ρ ι)) (rest : List (Resolver σ ι (Argument ρ ι))) {scope : κ}
      {scope' : κ'} (hSame : Same scope scope') :
      Mirrors Same (.binding handler request token given rest scope)
        (.binding handler.beside request token given (rest.map Resolver.beside) scope')
  | acting (request : String) (token : Token) (activity : Activity σ Outcome) {scope : κ}
      {scope' : κ'} (hSame : Same scope scope') :
      Mirrors Same (.acting request token scope activity)
        (.acting request token scope' activity.beside)
  | running (request : String) (token : Token) (onDrop : σ → σ) (next : σ → Activity σ Outcome)
      {scope : κ} {scope' : κ'} (hSame : Same scope scope') :
      Mirrors Same (.running ⟨request, token, scope, onDrop, next⟩)
        (.running ⟨request, token, scope', Prod.map onDrop id, fun state => (next state.1).beside⟩)
  | ended (answer : Answer) : Mirrors Same (.ended answer) (.ended answer)

/-- What can happen, in one state, to the scope at a place and to what is kept beside the state. -/
inductive Touch (shadow : Provider (σ × γ) κ' ι) (now : σ) :
    Option κ' → γ → Option κ' → γ → Prop where
  | untouched (scope : Option κ') (kept : γ) : Touch shadow now scope kept scope kept
  | opened (kept : γ) :
      Touch shadow now none kept (some (shadow.openScope (now, kept)).1)
        (shadow.openScope (now, kept)).2.2
  | asked (type : String) (scope : κ') (kept : γ) :
      Touch shadow now (some scope) kept (some (shadow.resolve type scope (now, kept)).2.1)
        (shadow.resolve type scope (now, kept)).2.2.2

/-- The scope that is open at a place. -/
def scopeAt (party : Option (Party σ κ ρ ι)) : Option κ :=
  party.bind Party.scope?

/-- What is left of two parties, of which one mirrors the other, after the same has been done to
both. The scope that was touched may have been closed. -/
structure InStep (Same : κ → κ' → Prop) (shadow : Provider (σ × γ) κ' ι) (now : σ)
    (scope : Option κ') (kept : γ) (left : Option (Party σ κ ρ ι) × σ)
    (left' : Option (Party (σ × γ) κ' ρ ι) × σ × γ) : Prop where
  parties : Option.Rel (Party.Mirrors Same) left.1 left'.1
  state : left'.2.1 = left.2
  touch : ∃ touched, Touch shadow now scope kept touched left'.2.2 ∧
    (scopeAt left'.1 = touched ∨ scopeAt left'.1 = none)

namespace Mediator

variable {mediator : Mediator σ κ ρ ι} {shadow : Provider (σ × γ) κ' ι} {Same : κ → κ' → Prop}
  {now : σ} {kept : γ}

/-- Nothing happens to the scope of a party that goes on with it. -/
theorem inStep_of_mirrors {party : Party σ κ ρ ι} {party' : Party (σ × γ) κ' ρ ι}
    {scope : Option κ'} (hMirrors : Party.Mirrors Same party party')
    (hScope : party'.scope? = scope) (state : σ) :
    InStep Same shadow now scope kept (some party, state) (some party', state, kept) where
  parties := .some hMirrors
  state := rfl
  touch := ⟨scope, .untouched scope kept, Or.inl hScope⟩

/-- A party may end although its scope has not been touched. -/
theorem inStep_ended (answer : Answer) (scope : Option κ') (state : σ) :
    InStep Same shadow now scope kept
      (some (.ended answer : Party σ κ ρ ι), state) (some (.ended answer), state, kept) where
  parties := .some (.ended answer)
  state := rfl
  touch := ⟨scope, .untouched scope kept, Or.inr rfl⟩

/-- A scope that has been touched is closed, and no more is done to what is beside the state. -/
theorem inStep_closed (hShadows : mediator.provider.Shadows shadow Same) {scope : κ} {scope' : κ'}
    (hSame : Same scope scope') {before : Option κ'} {kept' : γ}
    (hTouch : Touch shadow now before kept (some scope') kept') (answer : Answer) (state : σ) :
    InStep Same shadow now before kept
      (some (.ended answer : Party σ κ ρ ι), mediator.provider.closeScope scope state)
      (some (.ended answer), shadow.closeScope scope' (state, kept')) := by
  rw [hShadows.closeScope scope scope' hSame]
  exact ⟨.some (.ended answer), rfl, _, hTouch, Or.inr rfl⟩

/-- A step of a party and the same step of one that mirrors it. -/
theorem inStep_step (hShadows : mediator.provider.Shadows shadow Same) {party : Party σ κ ρ ι}
    {party' : Party (σ × γ) κ' ρ ι} (hMirrors : Party.Mirrors Same party party') (now : σ)
    (kept : γ) :
    InStep Same shadow now party'.scope? kept ((mediator.step party now).map some id)
      (((mediator.beside shadow).step party' (now, kept)).map some id) := by
  cases hMirrors with
  | holding given hSame => exact inStep_of_mirrors (.holding given hSame) rfl now
  | ended answer => exact inStep_ended answer none now
  | waiting request token =>
      simp only [step, beside, Registry.find?_beside]
      cases hFound : mediator.registry.find? request.type with
      | none => exact inStep_ended _ _ _
      | some handler =>
          simp only [Option.map_some]
          by_cases hCancelled : mediator.isCancelled token now = true
          · simp only [hCancelled, if_true]
            exact inStep_ended _ _ _
          · simp only [hCancelled, Bool.false_eq_true, if_false]
            obtain ⟨hSame, hState⟩ := hShadows.openScope now kept
            rw [handler.resolvers_beside]
            exact ⟨.some (.binding handler request token [] _ hSame), hState, _, .opened kept,
              Or.inl rfl⟩
  | binding handler request token given rest hSame =>
      cases rest with
      | nil =>
          simp only [List.map_nil, step, Handler.handle_beside]
          cases handler.handle request given with
          | none => exact inStep_closed hShadows hSame (.untouched _ _) _ now
          | some activity =>
              exact inStep_of_mirrors (.running request.type token id (fun _ => activity) hSame)
                rfl now
      | cons resolver rest =>
          cases resolver with
          | done result =>
              cases result with
              | error cause => exact inStep_closed hShadows hSame (.untouched _ _) _ now
              | ok argument =>
                  exact inStep_of_mirrors
                    (.binding handler request token (given ++ [argument]) rest hSame) rfl now
          | ask type next =>
              obtain ⟨hFound, hLeft, hState⟩ := hShadows.resolve type _ _ hSame now kept
              refine ⟨.some ?_, hState, _, .asked type _ kept, Or.inl rfl⟩
              simp only [beside, hFound]
              exact .binding handler request token given (next _ :: rest) hLeft
          | act change next =>
              exact inStep_of_mirrors
                (.binding handler request token given (next now :: rest) hSame) rfl _
  | acting request token activity hSame =>
      cases activity with
      | done outcome => exact inStep_closed hShadows hSame (.untouched _ _) _ now
      | act change next => exact inStep_of_mirrors (.acting request token (next now) hSame) rfl _
      | pause onDrop next =>
          exact inStep_of_mirrors (.running request token onDrop next hSame) rfl now
  | running request token onDrop next hSame =>
      simp only [step, beside]
      by_cases hCancelled : mediator.isCancelled token now = true
      · simp only [hCancelled, if_true]
        exact inStep_closed hShadows hSame (.untouched _ _) _ (onDrop now)
      · simp only [hCancelled, Bool.false_eq_true, if_false]
        exact inStep_of_mirrors (.acting request token (next now) hSame) rfl now

theorem inStep_gone (scope : Option κ') (state : σ) :
    InStep Same shadow now scope kept
      ((none : Option (Party σ κ ρ ι)), state) (none, state, kept) where
  parties := .none
  state := rfl
  touch := ⟨scope, .untouched scope kept, Or.inr rfl⟩

variable {party : Option (Party σ κ ρ ι)} {party' : Option (Party (σ × γ) κ' ρ ι)}

/-- Whatever is done at a place is done in the same way to a party that mirrors the one there. -/
theorem inStep_act (hShadows : mediator.provider.Shadows shadow Same)
    (hMirrors : Option.Rel (Party.Mirrors Same) party party') (done : Act ρ) (now : σ) (kept : γ) :
    InStep Same shadow now (scopeAt party') kept (mediator.act done party now)
      ((mediator.beside shadow).act done party' (now, kept)) := by
  have hStay : InStep Same shadow now (scopeAt party') kept (party, now) (party', now, kept) :=
    ⟨hMirrors, rfl, _, .untouched _ kept, Or.inl rfl⟩
  cases hMirrors with
  | none =>
      cases done with
      | openScope =>
          obtain ⟨hSame, hState⟩ := hShadows.openScope now kept
          exact ⟨.some (.holding [] hSame), hState, _, .opened kept, Or.inl rfl⟩
      | call request token => exact inStep_of_mirrors (.waiting request token) rfl now
      | resolve type => exact hStay
      | step => exact hStay
      | leave => exact hStay
  | some hParty =>
      cases done with
      | openScope => exact hStay
      | call request token => exact hStay
      | step => exact inStep_step hShadows hParty now kept
      | resolve type =>
          cases hParty with
          | holding given hSame =>
              obtain ⟨hFound, hLeft, hState⟩ := hShadows.resolve type _ _ hSame now kept
              refine ⟨.some ?_, hState, _, .asked type _ kept, Or.inl rfl⟩
              simp only [beside, hFound]
              exact .holding _ hLeft
          | waiting request token => exact hStay
          | binding handler request token given rest hSame => exact hStay
          | acting request token activity hSame => exact hStay
          | running request token onDrop next hSame => exact hStay
          | ended answer => exact hStay
      | leave =>
          cases hParty with
          | holding given hSame =>
              simp only [act, leave, beside, hShadows.closeScope _ _ hSame]
              exact inStep_gone _ _
          | waiting request token => exact inStep_gone _ now
          | binding handler request token given rest hSame => exact hStay
          | acting request token activity hSame => exact hStay
          | running request token onDrop next hSame =>
              simp only [act, leave, drop, beside, Prod.map_apply, id_eq,
                hShadows.closeScope _ _ hSame]
              exact inStep_gone _ _
          | ended answer => exact inStep_gone _ now

end Mediator

/-! ### All parties -/

/-- The scopes that are open, by the places of their parties. -/
def Arena.scopes (arena : Arena σ κ ρ ι) (place : Nat) : Option κ :=
  scopeAt (arena.parties place)

/-- Two arenas in the same state with the same parties apart from their scopes. -/
structure Arena.Mirrors (Same : κ → κ' → Prop) (arena : Arena σ κ ρ ι)
    (arena' : Arena (σ × γ) κ' ρ ι) : Prop where
  state : arena'.state.1 = arena.state
  parties : ∀ place,
    Option.Rel (Party.Mirrors Same) (arena.parties place) (arena'.parties place)

/-- What holds of the open scopes and of what is beside the state, and goes on to hold whenever a
scope is touched or closed. -/
structure Provider.Keeps (shadow : Provider (σ × γ) κ' ι)
    (holds : (Nat → Option κ') → γ → Prop) : Prop where
  touched : ∀ scopes kept, holds scopes kept → ∀ now place scope kept',
    Touch shadow now (scopes place) kept scope kept' →
      holds (Function.update scopes place scope) kept'
  closed : ∀ scopes kept, holds scopes kept → ∀ place,
    holds (Function.update scopes place none) kept

namespace Mediator

variable {mediator : Mediator σ κ ρ ι} {shadow : Provider (σ × γ) κ' ι} {Same : κ → κ' → Prop}
  {holds : (Nat → Option κ') → γ → Prop} {arena : Arena σ κ ρ ι} {arena' : Arena (σ × γ) κ' ρ ι}

theorem scopes_update (before after : σ) (parties : Nat → Option (Party σ κ ρ ι)) (place : Nat)
    (party : Option (Party σ κ ρ ι)) :
    (⟨after, Function.update parties place party⟩ : Arena σ κ ρ ι).scopes =
      Function.update (⟨before, parties⟩ : Arena σ κ ρ ι).scopes place (scopeAt party) := by
  funext other
  unfold Arena.scopes
  by_cases hSame : other = place
  · subst hSame
    simp only [Function.update_self]
  · simp only [Function.update_of_ne hSame]

theorem mirrors_move (hShadows : mediator.provider.Shadows shadow Same)
    (hKeeps : shadow.Keeps holds) (hMirrors : arena.Mirrors Same arena')
    (hHolds : holds arena'.scopes arena'.state.2) (move : Move σ ρ) :
    let left := mediator.move arena move
    let left' := (mediator.beside shadow).move arena' move.beside
    left.Mirrors Same left' ∧ holds left'.scopes left'.state.2 := by
  obtain ⟨state, parties⟩ := arena
  obtain ⟨⟨state', kept⟩, parties'⟩ := arena'
  obtain rfl : state' = state := hMirrors.state
  cases move with
  | change alter => exact ⟨⟨rfl, hMirrors.parties⟩, hHolds⟩
  | act place done =>
      have hInStep : InStep Same shadow state' (scopeAt (parties' place)) kept
          (mediator.act done (parties place) state')
          ((mediator.beside shadow).act done (parties' place) (state', kept)) :=
        inStep_act hShadows (hMirrors.parties place) done state' kept
      obtain ⟨touched, hTouch, hScope⟩ := hInStep.touch
      refine ⟨⟨hInStep.state, ?_⟩, ?_⟩
      · intro other
        by_cases hSame : other = place
        · subst hSame
          simpa only [move, Move.beside, Function.update_self] using hInStep.parties
        · simpa only [move, Move.beside, Function.update_of_ne hSame] using hMirrors.parties other
      · -- A scope that is closed may have been touched before, so what holds is carried over both.
        have hTouched := hKeeps.touched _ kept hHolds state' place touched _ hTouch
        simp only [move, Move.beside]
        rw [scopes_update (state', kept)]
        rcases hScope with hScope | hScope
        · rw [hScope]
          exact hTouched
        · have hClosed := hKeeps.closed _ _ hTouched place
          rw [hScope]
          rwa [Function.update_idem] at hClosed

/-- What is done to the state and the parties does not depend on what is beside the state; and what
lasts there goes on to hold. -/
theorem mirrors_play (hShadows : mediator.provider.Shadows shadow Same)
    (hKeeps : shadow.Keeps holds) (moves : List (Move σ ρ)) (hMirrors : arena.Mirrors Same arena')
    (hHolds : holds arena'.scopes arena'.state.2) :
    let left := mediator.play moves arena
    let left' := (mediator.beside shadow).play (moves.map Move.beside) arena'
    left.Mirrors Same left' ∧ holds left'.scopes left'.state.2 := by
  induction moves generalizing arena arena' with
  | nil => exact ⟨hMirrors, hHolds⟩
  | cons first rest ih =>
      obtain ⟨hNext, hLeft⟩ := mirrors_move hShadows hKeeps hMirrors hHolds first
      exact ih hNext hLeft

/-- From the start there is nothing to tell apart. -/
theorem mirrors_play_empty (mediator : Mediator σ κ ρ ι)
    (hShadows : mediator.provider.Shadows shadow Same) (hKeeps : shadow.Keeps holds)
    (moves : List (Move σ ρ)) (state : σ) {kept : γ} (hHolds : holds (fun _ => none) kept) :
    let left := mediator.play moves (.empty state)
    let left' := (mediator.beside shadow).play (moves.map Move.beside) (.empty (state, kept))
    left.Mirrors Same left' ∧ holds left'.scopes left'.state.2 :=
  mirrors_play hShadows hKeeps moves ⟨rfl, fun _ => .none⟩ hHolds

end Mediator
end Dispatch
end Switchboard
