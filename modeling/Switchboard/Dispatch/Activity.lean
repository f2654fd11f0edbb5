import Switchboard.Text.Split

/-!
# Activities

An activity is what a handler does over time.  It changes a state, looks at it, gives way and is
taken up again, and ends with a result.  Whoever runs it takes it up once for each turn and may drop
it whenever it has given way; it says what is still to be done in that case.
-/

namespace Switchboard
namespace Dispatch

/-- An activity on a state `σ` that ends with a result `α`. -/
inductive Activity (σ α : Type) where
  | done (result : α)
  /-- A change of the state; what follows may depend on the state before it. -/
  | act (change : σ → σ) (next : σ → Activity σ α)
  /-- A pause; `onDrop` is done if the activity is dropped in it. -/
  | pause (onDrop : σ → σ) (next : σ → Activity σ α)

/-- What a turn of an activity leaves. -/
inductive Turn (σ α : Type) where
  | ended (result : α)
  | paused (onDrop : σ → σ) (next : σ → Activity σ α)

namespace Activity

variable {σ α : Type}

/-- One turn, up to the next pause or the end. -/
def turn : Activity σ α → σ → Turn σ α × σ
  | .done result, state => (.ended result, state)
  | .act change next, state => (next state).turn (change state)
  | .pause onDrop next, state => (.paused onDrop next, state)

/-- All turns from one that is under way, of which `turns` are over, unless the activity is dropped
in a pause because `stops` holds then; the result, if there is one, and the number of turns. -/
def settle (stops : σ → Bool) : Activity σ α → Nat → σ → Option α × Nat × σ
  | .done result, turns, state => (some result, turns + 1, state)
  | .act change next, turns, state => (next state).settle stops turns (change state)
  | .pause onDrop next, turns, state =>
    if stops state then (none, turns + 2, onDrop state)
    else (next state).settle stops (turns + 1) state

end Activity
end Dispatch
end Switchboard
