import Switchboard.Proofs.Dispatch.Mirror
import Switchboard.Proofs.Dispatch.Services
import Mathlib.Data.List.Dedup
import Mathlib.Data.List.Infix

/-!
# A ledger of what scopes give

What scopes of registered services give can be written down beside the state, with the runs of their
factories (`Services.recording`).  Each scope then has a number, by which its factories know it, and
each instance that is built for a scope is marked with the run from which it comes; whoever asks a
scope sees neither.  A ledger is sound if it explains everything that was given by the registrations
and by what it says itself (`Ledger.Sound`), and it stays sound when a scope is opened
(`Ledger.Sound.opened`) or asked for any type (`Ledger.Sound.notes`).

A factory runs in one step.  What happens to a scope while a factory is at work is not looked at.
-/

namespace Switchboard
namespace Dispatch

open Catalogue (lookup?)

variable {σ ι : Type}

/-! ### Scopes by the calls that registered their services -/

theorem lastFor_map {σ' ι' : Type} (f : Registering σ ι → Registering σ' ι')
    (hType : ∀ call, (f call).type = call.type) (type : String) (calls : List (Registering σ ι)) :
    lastFor type (calls.map f) = (lastFor type calls).map f := by
  unfold lastFor
  rw [← List.map_reverse, List.find?_map]
  simp only [Function.comp_def, hType]

/-- How a type may have been registered. -/
inductive Registered (calls : List (Registering σ ι)) (type : String) : Prop where
  | never (hLast : lastFor type calls = none)
  | shared (value : ι) (hLast : lastFor type calls = some (.shared type value))
  | perScope (build : σ → ι × σ) (hLast : lastFor type calls = some (.perScope type build))

theorem registered (calls : List (Registering σ ι)) (type : String) : Registered calls type := by
  cases hLast : lastFor type calls with
  | none => exact .never hLast
  | some call =>
      have hType := type_of_lastFor hLast
      cases call with
      | shared other value =>
          obtain rfl : other = type := hType
          exact .shared value hLast
      | perScope other build =>
          obtain rfl : other = type := hType
          exact .perScope build hLast

/-- Whether each scope builds the type for itself. -/
def isScoped (type : String) (calls : List (Registering σ ι)) : Bool :=
  match lastFor type calls with
  | some (.perScope _ _) => true
  | _ => false

theorem isScoped_iff (type : String) (calls : List (Registering σ ι)) :
    isScoped type calls = true ↔ ∃ build, lastFor type calls = some (.perScope type build) := by
  unfold isScoped
  cases registered calls type with
  | never hLast => simp [hLast]
  | shared value hLast => simp [hLast]
  | perScope build hLast => simp [hLast]

theorem Services.lookup?_of_lastFor {calls : List (Registering σ ι)} {type : String}
    {call : Registering σ ι} (hLast : lastFor type calls = some call) :
    ∃ slots, lookup? type (Services.ofCalls calls).table =
      some (Services.registrationOf slots call) := by
  rcases Services.lookup?_ofCalls calls type with ⟨-, hNone⟩ | ⟨slots, other, hOther, hRow⟩
  · exact nomatch hLast.symm.trans hNone
  · obtain rfl := Option.some.inj (hLast.symm.trans hOther)
    exact ⟨slots, hRow⟩

namespace Scope

variable {calls : List (Registering σ ι)} {scope : Scope σ ι} {type : String}

theorem IsOf.resolve_of_none (hScope : IsOf (.ofCalls calls) scope)
    (hLast : lastFor type calls = none) (state : σ) :
    scope.resolve type state = (none, scope, state) := by
  rcases Services.lookup?_ofCalls calls type with ⟨hRow, -⟩ | ⟨slots, call, hSome, -⟩
  · exact hScope.resolve_unregistered hRow state
  · exact nomatch hLast.symm.trans hSome

theorem IsOf.resolve_of_shared (hScope : IsOf (.ofCalls calls) scope) {value : ι}
    (hLast : lastFor type calls = some (.shared type value)) (state : σ) :
    scope.resolve type state = (some ⟨type, value⟩, scope, state) := by
  obtain ⟨slots, hRow⟩ := Services.lookup?_of_lastFor hLast
  exact hScope.resolve_shared hRow state

variable {build : σ → ι × σ}

theorem IsOf.resolve_of_built (hScope : IsOf (.ofCalls calls) scope)
    (hLast : lastFor type calls = some (.perScope type build)) {made : Instance ι}
    (hBuilt : scope.built? type = some made) (state : σ) :
    scope.resolve type state = (some made, scope, state) := by
  obtain ⟨slots, hRow⟩ := Services.lookup?_of_lastFor hLast
  exact hScope.resolve_kept hRow hBuilt state

/-- A type that is not built yet is built now, and nothing else in the scope changes. -/
theorem IsOf.exists_resolve_of_unbuilt (hScope : IsOf (.ofCalls calls) scope)
    (hLast : lastFor type calls = some (.perScope type build))
    (hBuilt : scope.built? type = none) (state : σ) :
    ∃ left, scope.resolve type state =
        (some ⟨type, (build state).1⟩, left, (build state).2) ∧
      IsOf (.ofCalls calls) left ∧
      ∀ other, left.built? other =
        if other = type then some ⟨type, (build state).1⟩ else scope.built? other := by
  obtain ⟨slots, hRow⟩ := Services.lookup?_of_lastFor hLast
  have hFormed := Services.wellFormed_ofCalls calls
  exact ⟨_, hScope.resolve_unbuilt hFormed hRow hBuilt state, hScope.withCell hFormed hRow rfl,
    hScope.built?_withCell hFormed hRow _⟩

end Scope

/-! ### The ledger -/

/-- The runs of factories in their order: the scope for which each was made, and the type. -/
abbrev Runs := List (Nat × String)

/-- The call with a factory that writes down each of its runs for a scope, and marks what it builds
with the place of the run among all runs. -/
def Registering.numbered (scope : Nat) :
    Registering σ ι → Registering (σ × Runs) (ι × Option Nat)
  | .shared type value => .shared type (value, none)
  | .perScope type build => .perScope type fun state =>
    let (value, after) := build state.1
    ((value, some state.2.length), after, state.2 ++ [(scope, type)])

theorem Registering.numbered_type (scope : Nat) (call : Registering σ ι) :
    (call.numbered scope).type = call.type := by
  cases call with
  | shared type value => rfl
  | perScope type build => rfl

/-- The instance without its mark. -/
def Instance.plain (marked : Instance (ι × Option Nat)) : Instance ι :=
  ⟨marked.type, marked.value.1⟩

/-- What a scope gave for a type, and the state before that. -/
structure Resolution (σ ι : Type) where
  scope : Nat
  type : String
  before : σ
  found : Option (Instance (ι × Option Nat))

/-- The run of a factory from which the instance comes that was given. -/
def Resolution.run? (resolution : Resolution σ ι) : Option Nat :=
  resolution.found.bind (·.value.2)

/-- How many scopes have been opened, which factories have run, and what scopes gave. -/
structure Ledger (σ ι : Type) where
  scopes : Nat
  runs : Runs
  resolutions : List (Resolution σ ι)

namespace Ledger

def empty : Ledger σ ι := ⟨0, [], []⟩

/-- The first resolution of a type in a scope. -/
def first? (ledger : Ledger σ ι) (scope : Nat) (type : String) : Option (Resolution σ ι) :=
  ledger.resolutions.find? fun resolution =>
    decide (resolution.scope = scope ∧ resolution.type = type)

/-- The scopes that were asked for a type. -/
def askers (ledger : Ledger σ ι) (type : String) : List Nat :=
  ((ledger.resolutions.filter fun resolution => decide (resolution.type = type)).map
    (·.scope)).dedup

end Ledger

/-- Registered services as a provider that gives each scope a number, by which its factories know
it, and writes down what each scope gives. -/
def Services.recording (calls : List (Registering σ ι)) :
    Provider (σ × Ledger σ ι) (Nat × Scope (σ × Runs) (ι × Option Nat)) ι where
  provides := (Services.ofCalls calls).provides
  openScope state :=
    let number := state.2.scopes
    ((number, .ofServices (.ofCalls (calls.map (.numbered number)))), state.1,
      { state.2 with scopes := number + 1 })
  resolve type scope state :=
    let (found, left, after, runs) := scope.2.resolve type (state.1, state.2.runs)
    (found.map Instance.plain, (scope.1, left), after,
      ⟨state.2.scopes, runs, state.2.resolutions ++ [⟨scope.1, type, state.1, found⟩]⟩)
  closeScope _ state := state

theorem lastFor_numbered (type : String) (calls : List (Registering σ ι)) (number : Nat) :
    lastFor type (calls.map (.numbered number)) = (lastFor type calls).map (.numbered number) :=
  lastFor_map _ (Registering.numbered_type number) type calls

/-- A scope and a numbered one that have built the same, apart from the marks. -/
structure Scope.Agrees (calls : List (Registering σ ι)) (scope : Scope σ ι)
    (numbered : Nat × Scope (σ × Runs) (ι × Option Nat)) : Prop where
  isOf : IsOf (.ofCalls calls) scope
  isOf_numbered : IsOf (.ofCalls (calls.map (.numbered numbered.1))) numbered.2
  built? : ∀ type, scope.built? type = (numbered.2.built? type).map Instance.plain

/-- Scopes give the same whether it is written down or not. -/
theorem Services.shadows_recording (calls : List (Registering σ ι)) :
    (Services.ofCalls calls).provider.Shadows (Services.recording calls) (Scope.Agrees calls) where
  openScope state ledger := by
    refine ⟨⟨Scope.isOf_ofServices _, Scope.isOf_ofServices _, fun type => ?_⟩, rfl⟩
    simp only [Services.provider, Services.recording, Scope.built?_ofServices, Option.map_none]
  closeScope scope numbered hAgrees state ledger := rfl
  resolve type scope numbered hAgrees state ledger := by
    obtain ⟨number, scope'⟩ := numbered
    have hNumbered := lastFor_numbered type calls number
    simp only [Services.provider, Services.recording]
    cases registered calls type with
    | never hLast =>
        rw [hLast] at hNumbered
        rw [hAgrees.isOf.resolve_of_none hLast, hAgrees.isOf_numbered.resolve_of_none hNumbered]
        exact ⟨rfl, hAgrees, rfl⟩
    | shared value hLast =>
        rw [hLast] at hNumbered
        rw [hAgrees.isOf.resolve_of_shared hLast,
          hAgrees.isOf_numbered.resolve_of_shared hNumbered]
        exact ⟨rfl, hAgrees, rfl⟩
    | perScope build hLast =>
        rw [hLast] at hNumbered
        have hSame := hAgrees.built? type
        cases hBuilt : scope'.built? type with
        | some made =>
            rw [hBuilt] at hSame
            rw [hAgrees.isOf.resolve_of_built hLast hSame,
              hAgrees.isOf_numbered.resolve_of_built hNumbered hBuilt]
            exact ⟨rfl, hAgrees, rfl⟩
        | none =>
            rw [hBuilt] at hSame
            obtain ⟨left, hLeft, hOf, hOthers⟩ :=
              hAgrees.isOf.exists_resolve_of_unbuilt hLast hSame state
            obtain ⟨left', hLeft', hOf', hOthers'⟩ :=
              hAgrees.isOf_numbered.exists_resolve_of_unbuilt hNumbered hBuilt
                (state, ledger.runs)
            rw [hLeft, hLeft']
            refine ⟨rfl, ⟨hOf, hOf', fun other => ?_⟩, rfl⟩
            rw [hOthers, hOthers', hAgrees.built?]
            split_ifs <;> rfl

/-! ### What the ledger says -/

/-- Where what a scope gave comes from.  An instance that was built for the scope comes from the
state in which the scope was first asked for the type, and from a run of the factory for this very
scope. -/
structure Explained (calls : List (Registering σ ι)) (ledger : Ledger σ ι)
    (resolution : Resolution σ ι) : Prop where
  unregistered : lastFor resolution.type calls = none → resolution.found = none
  shared : ∀ value, lastFor resolution.type calls = some (.shared resolution.type value) →
    resolution.found = some ⟨resolution.type, value, none⟩
  perScope : ∀ build, lastFor resolution.type calls = some (.perScope resolution.type build) →
    ∃ first run, ledger.first? resolution.scope resolution.type = some first ∧
      resolution.found = some ⟨resolution.type, (build first.before).1, some run⟩ ∧
      ledger.runs[run]? = some (resolution.scope, resolution.type)

/-- A ledger in which all resolutions are explained, and in which there is one run for each scope
that was asked for a scoped type, and no other run. -/
structure Ledger.Sound (calls : List (Registering σ ι)) (ledger : Ledger σ ι) : Prop where
  scope_lt : ∀ resolution ∈ ledger.resolutions, resolution.scope < ledger.scopes
  explained : ∀ resolution ∈ ledger.resolutions, Explained calls ledger resolution
  runs_nodup : ledger.runs.Nodup
  mem_runs_iff : ∀ number type, (number, type) ∈ ledger.runs ↔
    isScoped type calls = true ∧ (ledger.first? number type).isSome = true

/-- An open scope in which just that is built which it gave before. -/
structure Ledger.Knows (calls : List (Registering σ ι)) (ledger : Ledger σ ι) (number : Nat)
    (scope : Scope (σ × Runs) (ι × Option Nat)) : Prop where
  lt : number < ledger.scopes
  isOf : Scope.IsOf (.ofCalls (calls.map (.numbered number))) scope
  built? : ∀ type, isScoped type calls = true →
    scope.built? type = (ledger.first? number type).bind (·.found)

namespace Ledger

variable {calls : List (Registering σ ι)} {ledger : Ledger σ ι} {resolution : Resolution σ ι}

/-- The ledger with one more resolution, and with the runs that it caused. -/
def note (ledger : Ledger σ ι) (more : Runs) (resolution : Resolution σ ι) : Ledger σ ι :=
  ⟨ledger.scopes, ledger.runs ++ more, ledger.resolutions ++ [resolution]⟩

theorem first?_note (ledger : Ledger σ ι) (more : Runs) (resolution : Resolution σ ι)
    (number : Nat) (type : String) :
    (ledger.note more resolution).first? number type =
      (ledger.first? number type).or
        (if resolution.scope = number ∧ resolution.type = type then some resolution else none) := by
  unfold first? note
  rw [List.find?_append, List.find?_singleton]
  simp only [decide_eq_true_eq]

theorem of_first? {number : Nat} {type : String} {first : Resolution σ ι}
    (hFirst : ledger.first? number type = some first) :
    first ∈ ledger.resolutions ∧ first.scope = number ∧ first.type = type :=
  ⟨List.mem_of_find?_eq_some hFirst, by simpa using List.find?_some hFirst⟩

theorem explained_of_none (hLast : lastFor resolution.type calls = none)
    (hFound : resolution.found = none) : Explained calls ledger resolution where
  unregistered _ := hFound
  shared _ hOther := nomatch hLast.symm.trans hOther
  perScope _ hOther := nomatch hLast.symm.trans hOther

theorem explained_of_shared {value : ι}
    (hLast : lastFor resolution.type calls = some (.shared resolution.type value))
    (hFound : resolution.found = some ⟨resolution.type, value, none⟩) :
    Explained calls ledger resolution where
  unregistered hOther := nomatch hLast.symm.trans hOther
  shared other hOther := by
    obtain ⟨-, rfl⟩ := Registering.shared.inj (Option.some.inj (hLast.symm.trans hOther))
    exact hFound
  perScope _ hOther := nomatch hLast.symm.trans hOther

theorem explained_of_perScope {build : σ → ι × σ}
    (hLast : lastFor resolution.type calls = some (.perScope resolution.type build))
    {first : Resolution σ ι} {run : Nat}
    (hFirst : ledger.first? resolution.scope resolution.type = some first)
    (hFound : resolution.found = some ⟨resolution.type, (build first.before).1, some run⟩)
    (hRun : ledger.runs[run]? = some (resolution.scope, resolution.type)) :
    Explained calls ledger resolution where
  unregistered hOther := nomatch hLast.symm.trans hOther
  shared _ hOther := nomatch hLast.symm.trans hOther
  perScope other hOther := by
    obtain ⟨-, rfl⟩ := Registering.perScope.inj (Option.some.inj (hLast.symm.trans hOther))
    exact ⟨first, run, hFirst, hFound, hRun⟩

/-- What is explained stays so as long as nothing is struck out. -/
theorem explained_of_le (hExplained : Explained calls ledger resolution) {later : Ledger σ ι}
    (hFirsts : ∀ number type first, ledger.first? number type = some first →
      later.first? number type = some first)
    (hRuns : ledger.runs <+: later.runs) : Explained calls later resolution where
  unregistered := hExplained.unregistered
  shared := hExplained.shared
  perScope build hLast := by
    obtain ⟨first, run, hFirst, hFound, hRun⟩ := hExplained.perScope build hLast
    obtain ⟨more, hMore⟩ := hRuns
    have hLess := (List.getElem?_eq_some_iff.mp hRun).1
    refine ⟨first, run, hFirsts _ _ _ hFirst, hFound, ?_⟩
    rw [← hMore, List.getElem?_append_left hLess, hRun]

theorem explained_note (hExplained : Explained calls ledger resolution) (more : Runs)
    (other : Resolution σ ι) : Explained calls (ledger.note more other) resolution := by
  refine explained_of_le hExplained (fun number type first hFirst => ?_) (List.prefix_append _ _)
  rw [first?_note, hFirst, Option.some_or]

/-- A resolution for which no factory runs. -/
theorem Sound.note_nil (hSound : ledger.Sound calls) (hLess : resolution.scope < ledger.scopes)
    (hExplained : Explained calls (ledger.note [] resolution) resolution)
    (hKnown : isScoped resolution.type calls = true →
      (ledger.first? resolution.scope resolution.type).isSome = true) :
    (ledger.note [] resolution).Sound calls where
  scope_lt := List.forall_mem_append.mpr
    ⟨hSound.scope_lt, List.forall_mem_singleton.mpr hLess⟩
  explained := List.forall_mem_append.mpr
    ⟨fun old hOld => explained_note (hSound.explained old hOld) [] resolution,
      List.forall_mem_singleton.mpr hExplained⟩
  runs_nodup := by
    rw [note, List.append_nil]
    exact hSound.runs_nodup
  mem_runs_iff number type := by
    rw [first?_note, note, List.append_nil, hSound.mem_runs_iff, Option.isSome_or]
    constructor
    · rintro ⟨hScoped, hFirst⟩
      exact ⟨hScoped, by rw [hFirst, Bool.true_or]⟩
    · rintro ⟨hScoped, hFirst⟩
      refine ⟨hScoped, ?_⟩
      -- A type that is first asked for here would be scoped and not known.
      split_ifs at hFirst with hOwn
      · obtain ⟨rfl, rfl⟩ := hOwn
        exact hKnown hScoped
      · simpa using hFirst

variable (resolution) in
/-- A resolution for which a factory runs: the first one of a scoped type in its scope. -/
theorem Sound.note_run (hSound : ledger.Sound calls) (hLess : resolution.scope < ledger.scopes)
    (hExplained : Explained calls
      (ledger.note [(resolution.scope, resolution.type)] resolution) resolution)
    (hScoped : isScoped resolution.type calls = true)
    (hFirst : ledger.first? resolution.scope resolution.type = none) :
    (ledger.note [(resolution.scope, resolution.type)] resolution).Sound calls where
  scope_lt := List.forall_mem_append.mpr
    ⟨hSound.scope_lt, List.forall_mem_singleton.mpr hLess⟩
  explained := List.forall_mem_append.mpr
    ⟨fun old hOld => explained_note (hSound.explained old hOld) _ resolution,
      List.forall_mem_singleton.mpr hExplained⟩
  runs_nodup := by
    have hNew : (resolution.scope, resolution.type) ∉ ledger.runs := by
      rw [hSound.mem_runs_iff, hFirst]
      simp
    rw [note, ← List.concat_eq_append]
    exact hSound.runs_nodup.concat hNew
  mem_runs_iff number type := by
    rw [first?_note, note, List.mem_append, hSound.mem_runs_iff, List.mem_singleton,
      Option.isSome_or]
    by_cases hOwn : resolution.scope = number ∧ resolution.type = type
    · obtain ⟨rfl, rfl⟩ := hOwn
      simp [hScoped]
    · have hOther : (number, type) ≠ (resolution.scope, resolution.type) := by
        intro hSame
        obtain ⟨rfl, rfl⟩ := Prod.mk.inj hSame
        exact hOwn ⟨rfl, rfl⟩
      simp [hOwn, hOther]

variable {number : Nat} {scope : Scope (σ × Runs) (ι × Option Nat)}

/-- What other scopes give is nothing to a scope. -/
theorem Knows.note_of_ne (hKnows : ledger.Knows calls number scope) (more : Runs)
    (hApart : resolution.scope ≠ number) :
    (ledger.note more resolution).Knows calls number scope where
  lt := hKnows.lt
  isOf := hKnows.isOf
  built? type hScoped := by
    rw [first?_note, if_neg fun hOwn => hApart hOwn.1, Option.or_none]
    exact hKnows.built? type hScoped

/-- A scope that stays as it is may give what it has given before, or what is not built. -/
theorem Knows.note_nil (hKnows : ledger.Knows calls number scope)
    (hKnown : isScoped resolution.type calls = true →
      (ledger.first? resolution.scope resolution.type).isSome = true) :
    (ledger.note [] resolution).Knows calls number scope where
  lt := hKnows.lt
  isOf := hKnows.isOf
  built? type hScoped := by
    rw [hKnows.built? type hScoped, first?_note]
    split_ifs with hOwn
    · obtain ⟨rfl, rfl⟩ := hOwn
      rw [Option.or_of_isSome (hKnown hScoped)]
    · rw [Option.or_none]

/-- A scope that is asked for a type gives something, which is noted in a ledger that is as sound as
before and knows the scope that is left. -/
def Notes (calls : List (Registering σ ι)) (ledger : Ledger σ ι) (number : Nat)
    (scope : Scope (σ × Runs) (ι × Option Nat)) (type : String) (now : σ) : Prop :=
  ∃ more left found after,
    (Services.recording calls).resolve type (number, scope) (now, ledger) =
      (found.map Instance.plain, (number, left), after,
        ledger.note more ⟨number, type, now, found⟩) ∧
    (ledger.note more ⟨number, type, now, found⟩).Sound calls ∧
    (ledger.note more ⟨number, type, now, found⟩).Knows calls number left

theorem notes_of_resolve {type : String} {now after : σ} {more : Runs}
    {left : Scope (σ × Runs) (ι × Option Nat)} {found : Option (Instance (ι × Option Nat))}
    (hResolve : scope.resolve type (now, ledger.runs) = (found, left, after, ledger.runs ++ more))
    (hSound : (ledger.note more ⟨number, type, now, found⟩).Sound calls)
    (hKnows : (ledger.note more ⟨number, type, now, found⟩).Knows calls number left) :
    ledger.Notes calls number scope type now := by
  refine ⟨more, left, found, after, ?_, hSound, hKnows⟩
  simp only [Services.recording, hResolve]
  rfl

/-- Nothing is built for a type that is not scoped, or has been asked for before. -/
theorem notes_of_resolve_same (hSound : ledger.Sound calls)
    (hKnows : ledger.Knows calls number scope) {type : String} {now : σ}
    {found : Option (Instance (ι × Option Nat))}
    (hResolve : scope.resolve type (now, ledger.runs) = (found, scope, now, ledger.runs))
    (hExplained : Explained calls (ledger.note [] ⟨number, type, now, found⟩)
      ⟨number, type, now, found⟩)
    (hKnown : isScoped type calls = true → (ledger.first? number type).isSome = true) :
    ledger.Notes calls number scope type now := by
  have hMore : scope.resolve type (now, ledger.runs) =
      (found, scope, now, ledger.runs ++ []) := by
    rw [hResolve, List.append_nil]
  exact notes_of_resolve hMore (hSound.note_nil hKnows.lt hExplained hKnown)
    (hKnows.note_nil hKnown)

/-- What was given first for a scoped type was built then, in a run for that scope. -/
theorem Sound.exists_run (hSound : ledger.Sound calls) {type : String} {build : σ → ι × σ}
    (hLast : lastFor type calls = some (.perScope type build)) {first : Resolution σ ι}
    (hFirst : ledger.first? number type = some first) :
    ∃ run, first.found = some ⟨type, (build first.before).1, some run⟩ ∧
      ledger.runs[run]? = some (number, type) := by
  obtain ⟨hMem, hScope, hType⟩ := of_first? hFirst
  subst hScope hType
  obtain ⟨same, run, hSame, hFound, hRun⟩ := (hSound.explained first hMem).perScope build hLast
  obtain rfl := Option.some.inj (hFirst.symm.trans hSame)
  exact ⟨run, hFound, hRun⟩

/-- The resolution for which the factory of a type runs now. -/
def built (ledger : Ledger σ ι) (number : Nat) (type : String) (build : σ → ι × σ) (now : σ) :
    Resolution σ ι :=
  ⟨number, type, now, some ⟨type, (build now).1, some ledger.runs.length⟩⟩

theorem explained_built {type : String} {build : σ → ι × σ}
    (hLast : lastFor type calls = some (.perScope type build))
    (hFirst : ledger.first? number type = none) (now : σ) :
    Explained calls (ledger.note [(number, type)] (ledger.built number type build now))
      (ledger.built number type build now) := by
  have hOwn : (ledger.note [(number, type)] (ledger.built number type build now)).first? number
      type = some (ledger.built number type build now) := by
    rw [first?_note, hFirst, Option.none_or]
    exact if_pos ⟨rfl, rfl⟩
  exact explained_of_perScope hLast hOwn rfl List.getElem?_concat_length

/-- A scoped type is built when the scope is asked for it first. -/
theorem notes_of_first?_eq_none (hSound : ledger.Sound calls)
    (hKnows : ledger.Knows calls number scope) {type : String} {build : σ → ι × σ}
    (hLast : lastFor type calls = some (.perScope type build))
    (hFirst : ledger.first? number type = none) (now : σ) :
    ledger.Notes calls number scope type now := by
  have hScoped : isScoped type calls = true := (isScoped_iff _ _).mpr ⟨build, hLast⟩
  have hNumbered := lastFor_numbered type calls number
  rw [hLast] at hNumbered
  have hBuilt := hKnows.built? type hScoped
  rw [hFirst, Option.bind_none] at hBuilt
  -- Nothing was given before, so nothing is built, and the factory runs.
  obtain ⟨left, hLeft, hOf, hOthers⟩ :=
    hKnows.isOf.exists_resolve_of_unbuilt hNumbered hBuilt (now, ledger.runs)
  refine notes_of_resolve hLeft (hSound.note_run (ledger.built number type build now) hKnows.lt
    (explained_built hLast hFirst now) hScoped hFirst) ⟨hKnows.lt, hOf, fun other hOther => ?_⟩
  rw [hOthers, first?_note]
  by_cases hSame : other = type
  · subst hSame
    rw [if_pos rfl, hFirst, Option.none_or, if_pos ⟨rfl, rfl⟩]
    rfl
  · rw [if_neg hSame, if_neg fun hOwn => hSame hOwn.2.symm, Option.or_none]
    exact hKnows.built? other hOther

/-- Whatever an open scope is asked for, the ledger goes on to be sound. -/
theorem Sound.notes (hSound : ledger.Sound calls) (hKnows : ledger.Knows calls number scope)
    (type : String) (now : σ) : ledger.Notes calls number scope type now := by
  have hNumbered := lastFor_numbered type calls number
  cases registered calls type with
  | never hLast =>
      rw [hLast] at hNumbered
      refine notes_of_resolve_same hSound hKnows (hKnows.isOf.resolve_of_none hNumbered _)
        (explained_of_none hLast rfl) fun hScoped => ?_
      simp [isScoped, hLast] at hScoped
  | shared value hLast =>
      rw [hLast] at hNumbered
      refine notes_of_resolve_same hSound hKnows (hKnows.isOf.resolve_of_shared hNumbered _)
        (explained_of_shared hLast rfl) fun hScoped => ?_
      simp [isScoped, hLast] at hScoped
  | perScope build hLast =>
      rw [hLast] at hNumbered
      cases hFirst : ledger.first? number type with
      | none => exact notes_of_first?_eq_none hSound hKnows hLast hFirst now
      | some first =>
          have hBuilt := hKnows.built? type ((isScoped_iff _ _).mpr ⟨build, hLast⟩)
          obtain ⟨run, hFound, hRun⟩ := hSound.exists_run hLast hFirst
          rw [hFirst, Option.bind_some, hFound] at hBuilt
          refine notes_of_resolve_same hSound hKnows
            (hKnows.isOf.resolve_of_built hNumbered hBuilt _)
            (explained_note (explained_of_perScope hLast hFirst rfl hRun) _ _) fun _ => ?_
          rw [hFirst]
          rfl

/-- A scope that is opened now has not been asked for anything. -/
theorem Sound.first?_eq_none (hSound : ledger.Sound calls) (type : String) :
    ledger.first? ledger.scopes type = none := by
  unfold first?
  rw [List.find?_eq_none]
  intro resolution hMem hOwn
  have hLess := hSound.scope_lt resolution hMem
  exact absurd (of_decide_eq_true hOwn).1 (Nat.ne_of_lt hLess)

/-- The ledger after one more scope is opened. -/
def opened (ledger : Ledger σ ι) : Ledger σ ι :=
  { ledger with scopes := ledger.scopes + 1 }

theorem Sound.opened (hSound : ledger.Sound calls) : ledger.opened.Sound calls where
  scope_lt resolution hMem := Nat.lt_succ_of_lt (hSound.scope_lt resolution hMem)
  explained resolution hMem :=
    explained_of_le (hSound.explained resolution hMem) (fun _ _ _ hFirst => hFirst) List.prefix_rfl
  runs_nodup := hSound.runs_nodup
  mem_runs_iff := hSound.mem_runs_iff

theorem Knows.opened (hKnows : ledger.Knows calls number scope) :
    ledger.opened.Knows calls number scope where
  lt := Nat.lt_succ_of_lt hKnows.lt
  isOf := hKnows.isOf
  built? := hKnows.built?

theorem Sound.knows_opened (hSound : ledger.Sound calls) :
    ledger.opened.Knows calls ledger.scopes
      (.ofServices (.ofCalls (calls.map (.numbered ledger.scopes)))) where
  lt := Nat.lt_succ_self _
  isOf := Scope.isOf_ofServices _
  built? type _ := by
    have hFirst : ledger.opened.first? ledger.scopes type = none := hSound.first?_eq_none type
    rw [Scope.built?_ofServices, hFirst, Option.bind_none]

end Ledger
end Dispatch
end Switchboard
