import Switchboard.Dispatch.Handler

/-!
# The sample world

A small world in which services can be tried: words, which may be built for each scope, directories
of names, which can change, and a log.  All that happens is written down as events.
-/

namespace Switchboard
namespace Sample

open Dispatch (Token Services Scope Provider)

/-- The world between two steps. -/
structure State where
  /-- What has happened, the last event first. -/
  events : List String
  /-- The names in each directory. -/
  directories : List (List String)
  /-- How often each factory has run. -/
  runs : List Nat
  cancelled : List Token
  /-- The number of tokens made so far. -/
  tokens : Nat
  /-- The number of components made so far. -/
  components : Nat
deriving DecidableEq, Repr

namespace State

def empty : State := ⟨[], [], [], [], 0, 0⟩

/-- The world after one more event. -/
def record (event : String) (state : State) : State :=
  { state with events := event :: state.events }

/-- The events in their order, and the world without them. -/
def takeEvents (state : State) : List String × State :=
  (state.events.reverse, { state with events := [] })

def newToken (state : State) : Token × State :=
  (state.tokens, { state with tokens := state.tokens + 1 })

def isCancelled (token : Token) (state : State) : Bool :=
  state.cancelled.contains token

def cancel (token : Token) (state : State) : State :=
  { state with cancelled := token :: state.cancelled }

def names (directory : Nat) (state : State) : List String :=
  (state.directories[directory]?).getD []

/-- The world with other names in a directory. -/
def setNames (directory : Nat) (names : List String) (state : State) : State :=
  { state with directories := state.directories.set directory names }

end State

/-- What a component holds. -/
inductive Content where
  | word (text : String)
  | directory (place : Nat)
  | log
deriving DecidableEq, Repr

/-- A component: its content, and the number by which it is told from others. -/
structure Component where
  id : Nat
  content : Content
deriving DecidableEq, Repr

/-- A new component. -/
def Component.new (content : Content) (state : State) : Component × State :=
  (⟨state.components, content⟩, { state with components := state.components + 1 })

/-- What can be registered. -/
inductive Offer where
  /-- A word for all scopes. -/
  | word (type text : String)
  /-- A word that is built for each scope and carries the number of the run that built it. -/
  | numbered (type text : String)
  | directory (names : List String)
  | log
deriving DecidableEq, Repr

/-- One run of a factory for numbered words. -/
def buildWord (type text : String) (factory : Nat) (state : State) : Component × State :=
  let run := (state.runs[factory]?).getD 0
  let state := { state with runs := state.runs.set factory (run + 1) }
  Component.new (.word (text ++ "#" ++ toString run)) (state.record ("build " ++ type))

/-- Services with one more offer. -/
def Offer.register (offer : Offer) (services : Services State Component) (state : State) :
    Services State Component × State :=
  match offer with
  | .word type text =>
    let (component, state) := Component.new (.word text) state
    (services.shared type component, state)
  | .numbered type text =>
    (services.perScope type (buildWord type text state.runs.length),
      { state with runs := state.runs ++ [0] })
  | .directory names =>
    let (component, state) := Component.new (.directory state.directories.length) state
    (services.shared "Directory" component,
      { state with directories := state.directories ++ [names] })
  | .log =>
    let (component, state) := Component.new .log state
    (services.shared "Log" component, state)

/-- The services of some offers, taken in their order. -/
def register (offers : List Offer) (state : State) : Services State Component × State :=
  offers.foldl (fun (services, state) offer => offer.register services state) (.empty, state)

/-- How a provider differs from the services behind it: types that it claims to provide, types that
it does not resolve, and types for which it gives something else. -/
structure Disguise where
  claimed : List String := []
  hidden : List String := []
  mistyped : List String := []
deriving DecidableEq, Repr

/-- What a provider gives for a mistyped service. -/
def stray : Dispatch.Instance Component := ⟨"Stray", ⟨0, .log⟩⟩

/-- Services in disguise as a provider whose scopes are noticed when they open and close. -/
def provider (services : Services State Component) (disguise : Disguise) :
    Provider State (Scope State Component) Component where
  provides type := disguise.claimed.contains type || services.provides type
  openScope state := (.ofServices services, state.record "open")
  resolve type scope state :=
    if disguise.hidden.contains type then (none, scope, state)
    else if disguise.mistyped.contains type then (some stray, scope, state)
    else scope.resolve type state
  closeScope _ state := state.record "close"

end Sample
end Switchboard
