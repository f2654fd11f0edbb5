import Switchboard.Proofs.Dispatch.Ledger

/-!
# Scopes side by side

Any number of scopes of the same services may be open at once, for calls and by hand, and be asked
for types in any order.  Through all of this the ledger knows each open scope by a number of its
own (`Ledger.Covers`), so what it says of one scope is never changed by another.  A scope gives the
same instance of a type whenever it is asked.  Instances that are built for scopes come from runs
of their own, one for each scope that asks, and shared ones are the registered ones.  What a scope
gives is fixed by the registrations and by the state in which it was first asked for the type, so
others have a say in it through that state only (`Explained`).
-/

namespace Switchboard
namespace Dispatch

variable {σ ρ ι : Type}

/-- What holds of open scopes and the ledger from the start. -/
structure Ledger.Covers (calls : List (Registering σ ι))
    (scopes : Nat → Option (Nat × Scope (σ × Runs) (ι × Option Nat))) (ledger : Ledger σ ι) :
    Prop where
  sound : ledger.Sound calls
  knows : ∀ place number scope, scopes place = some (number, scope) →
    ledger.Knows calls number scope
  apart : ∀ place other number scope scope', scopes place = some (number, scope) →
    scopes other = some (number, scope') → place = other

namespace Ledger

/-! ### Scopes and the ledger through all moves -/

variable {calls : List (Registering σ ι)} {ledger : Ledger σ ι} {resolution : Resolution σ ι}
  {number : Nat} {scope : Scope (σ × Runs) (ι × Option Nat)}
  {scopes : Nat → Option (Nat × Scope (σ × Runs) (ι × Option Nat))}

theorem covers_empty (calls : List (Registering σ ι)) :
    Ledger.Covers calls (fun _ => none) (empty : Ledger σ ι) where
  sound :=
    { scope_lt := nofun
      explained := nofun
      runs_nodup := List.nodup_nil
      mem_runs_iff := fun number type => by simp [empty, first?] }
  knows _ _ _ hNone := nomatch hNone
  apart _ _ _ _ _ hNone := nomatch hNone

theorem Covers.closed (hCovers : ledger.Covers calls scopes) (place : Nat) :
    ledger.Covers calls (Function.update scopes place none) := by
  have hOpen : ∀ other number scope,
      Function.update scopes place none other = some (number, scope) →
        scopes other = some (number, scope) := by
    intro other number scope hOther
    by_cases hSame : other = place
    · subst hSame
      simp at hOther
    · rwa [Function.update_of_ne hSame] at hOther
  exact ⟨hCovers.sound, fun other number scope hOther => hCovers.knows _ _ _ (hOpen _ _ _ hOther),
    fun a b number scope scope' hA hB => hCovers.apart _ _ _ _ _ (hOpen _ _ _ hA) (hOpen _ _ _ hB)⟩

/-- A scope takes a place under a number that no scope has elsewhere. -/
theorem Covers.update {later : Ledger σ ι} (hCovers : ledger.Covers calls scopes) {place : Nat}
    (hSound : later.Sound calls) (hKnows : later.Knows calls number scope)
    (hOthers : ∀ other number' scope', other ≠ place → scopes other = some (number', scope') →
      number' ≠ number ∧ (ledger.Knows calls number' scope' → later.Knows calls number' scope')) :
    later.Covers calls (Function.update scopes place (some (number, scope))) where
  sound := hSound
  knows other number' scope' hOther := by
    by_cases hSame : other = place
    · subst hSame
      rw [Function.update_self] at hOther
      obtain ⟨rfl, rfl⟩ := Prod.mk.inj (Option.some.inj hOther)
      exact hKnows
    · rw [Function.update_of_ne hSame] at hOther
      exact (hOthers _ _ _ hSame hOther).2 (hCovers.knows _ _ _ hOther)
  apart a b number' left right hA hB := by
    -- The number of the new scope is that of no other, so neither place can be the new one alone.
    by_cases hSameA : a = place
    · subst hSameA
      by_cases hSameB : b = a
      · exact hSameB.symm
      · rw [Function.update_self] at hA
        rw [Function.update_of_ne hSameB] at hB
        obtain ⟨rfl, -⟩ := Prod.mk.inj (Option.some.inj hA)
        exact absurd rfl (hOthers _ _ _ hSameB hB).1
    · rw [Function.update_of_ne hSameA] at hA
      by_cases hSameB : b = place
      · subst hSameB
        rw [Function.update_self] at hB
        obtain ⟨rfl, -⟩ := Prod.mk.inj (Option.some.inj hB)
        exact absurd rfl (hOthers _ _ _ hSameA hA).1
      · rw [Function.update_of_ne hSameB] at hB
        exact hCovers.apart _ _ _ _ _ hA hB

/-- The ledger covers the open scopes through whatever happens to them. -/
theorem keeps_covers (calls : List (Registering σ ι)) :
    (Services.recording calls).Keeps (Ledger.Covers calls) where
  closed scopes ledger hCovers place := hCovers.closed place
  touched scopes ledger hCovers now place scope later hTouch := by
    generalize hPlace : scopes place = before at hTouch
    cases hTouch with
    | untouched =>
        rw [← hPlace, Function.update_eq_self]
        exact hCovers
    | opened =>
        -- The number of the new scope is past those of all that are open.
        refine hCovers.update hCovers.sound.opened hCovers.sound.knows_opened ?_
        intro other number' scope' _ hOther
        exact ⟨Nat.ne_of_lt (hCovers.knows _ _ _ hOther).lt, Knows.opened⟩
    | asked type own =>
        obtain ⟨number, own⟩ := own
        obtain ⟨more, left, found, after, hResolve, hSound, hKnows⟩ :=
          hCovers.sound.notes (hCovers.knows _ _ _ hPlace) type now
        rw [hResolve]
        refine hCovers.update hSound hKnows ?_
        intro other number' scope' hApart hOther
        have hNumbers : number' ≠ number := by
          rintro rfl
          exact hApart (hCovers.apart _ _ _ _ _ hOther hPlace)
        exact ⟨hNumbers, fun hOld => hOld.note_of_ne more hNumbers.symm⟩

/-! ### What follows for all scopes -/

theorem mem_askers_iff (ledger : Ledger σ ι) (number : Nat) (type : String) :
    number ∈ ledger.askers type ↔ (ledger.first? number type).isSome = true := by
  unfold askers first?
  simp only [List.mem_dedup, List.mem_map, List.mem_filter, decide_eq_true_eq,
    List.find?_isSome]
  constructor
  · rintro ⟨resolution, ⟨hMem, hType⟩, hScope⟩
    exact ⟨resolution, hMem, hScope, hType⟩
  · rintro ⟨resolution, hMem, hScope, hType⟩
    exact ⟨resolution, ⟨hMem, hType⟩, hScope⟩

/-- One scope gives the same for a type whenever it is asked. -/
theorem Sound.found_eq (hSound : ledger.Sound calls) {other : Resolution σ ι}
    (hMem : resolution ∈ ledger.resolutions) (hOther : other ∈ ledger.resolutions)
    (hScope : resolution.scope = other.scope) (hType : resolution.type = other.type) :
    resolution.found = other.found := by
  have hExplained := hSound.explained resolution hMem
  have hExplained' := hSound.explained other hOther
  cases registered calls resolution.type with
  | never hLast => rw [hExplained.unregistered hLast, hExplained'.unregistered (hType ▸ hLast)]
  | shared value hLast =>
      rw [hExplained.shared value hLast, hExplained'.shared value (hType ▸ hLast), hType]
  | perScope build hLast =>
      obtain ⟨first, run, hFirst, hFound, hRun⟩ := hExplained.perScope build hLast
      obtain ⟨first', run', hFirst', hFound', hRun'⟩ :=
        hExplained'.perScope build (hType ▸ hLast)
      rw [← hType] at hFirst' hFound' hRun'
      rw [← hScope] at hFirst' hRun'
      obtain rfl := Option.some.inj (hFirst.symm.trans hFirst')
      -- Both instances come from the one run for this scope.
      have hLess := (List.getElem?_eq_some_iff.mp hRun).1
      obtain rfl := (List.getElem?_inj hLess hSound.runs_nodup).mp (hRun.trans hRun'.symm)
      rw [hFound, hFound']

/-- The run from which an instance comes is one for the scope that gave it. -/
theorem Sound.getElem?_run (hSound : ledger.Sound calls)
    (hMem : resolution ∈ ledger.resolutions) {run : Nat} (hRun : resolution.run? = some run) :
    ledger.runs[run]? = some (resolution.scope, resolution.type) := by
  have hExplained := hSound.explained resolution hMem
  unfold Resolution.run? at hRun
  cases registered calls resolution.type with
  | never hLast =>
      rw [hExplained.unregistered hLast] at hRun
      exact nomatch hRun
  | shared value hLast =>
      rw [hExplained.shared value hLast] at hRun
      exact nomatch hRun
  | perScope build hLast =>
      obtain ⟨first, own, -, hFound, hOwn⟩ := hExplained.perScope build hLast
      rw [hFound] at hRun
      obtain rfl := Option.some.inj hRun
      exact hOwn

/-- An instance that is built for a scope comes from a run of which no other scope has anything. -/
theorem Sound.run?_ne (hSound : ledger.Sound calls) {other : Resolution σ ι}
    (hMem : resolution ∈ ledger.resolutions) (hOther : other ∈ ledger.resolutions)
    (hScoped : isScoped resolution.type calls = true) (hScope : resolution.scope ≠ other.scope) :
    resolution.run? ≠ other.run? := by
  obtain ⟨build, hLast⟩ := (isScoped_iff _ _).mp hScoped
  obtain ⟨first, run, -, hFound, hRun⟩ :=
    (hSound.explained resolution hMem).perScope build hLast
  have hOwn : resolution.run? = some run := by
    rw [Resolution.run?, hFound]
    rfl
  intro hSame
  have hRun' := hSound.getElem?_run hOther (hSame.symm.trans hOwn)
  have hPairs := Option.some.inj (hRun.symm.trans hRun')
  exact hScope (Prod.mk.inj hPairs).1

/-- The scopes for which a factory has run are those that were asked for its type. -/
theorem Sound.runs_perm_askers (hSound : ledger.Sound calls) {type : String}
    (hScoped : isScoped type calls = true) :
    ((ledger.runs.filter fun run => decide (run.2 = type)).map (·.1)).Perm
      (ledger.askers type) := by
  have hNodup : ((ledger.runs.filter fun run => decide (run.2 = type)).map (·.1)).Nodup := by
    refine List.Nodup.map_on ?_ (hSound.runs_nodup.filter _)
    intro run hRun other hOther hScope
    have hType : run.2 = type := by simpa using (List.mem_filter.mp hRun).2
    have hType' : other.2 = type := by simpa using (List.mem_filter.mp hOther).2
    exact Prod.ext hScope (hType.trans hType'.symm)
  refine (List.perm_ext_iff_of_nodup hNodup (List.nodup_dedup _)).mpr fun number => ?_
  rw [← askers, mem_askers_iff]
  simp only [List.mem_map, List.mem_filter, decide_eq_true_eq]
  constructor
  · rintro ⟨⟨number, type⟩, ⟨hRun, rfl⟩, rfl⟩
    exact ((hSound.mem_runs_iff number type).mp hRun).2
  · intro hFirst
    exact ⟨(number, type), ⟨(hSound.mem_runs_iff number type).mpr ⟨hScoped, hFirst⟩, rfl⟩, rfl⟩

/-- What the ledger says of scopes that are nothing to each other. -/
structure IsIsolated (calls : List (Registering σ ι)) (ledger : Ledger σ ι) : Prop where
  /-- What a scope gives depends on the registrations, and on others only through the state in which
  the scope was first asked for the type. -/
  explained : ∀ resolution ∈ ledger.resolutions, Explained calls ledger resolution
  same_in_scope : ∀ resolution ∈ ledger.resolutions, ∀ other ∈ ledger.resolutions,
    resolution.scope = other.scope → resolution.type = other.type →
      resolution.found = other.found
  /-- What is built for one scope is not given by another. -/
  own_run : ∀ resolution ∈ ledger.resolutions, ∀ other ∈ ledger.resolutions,
    isScoped resolution.type calls = true → resolution.scope ≠ other.scope →
      resolution.run? ≠ other.run?
  /-- A factory runs once for a scope that is asked for its type, and else not at all. -/
  count_runs : ∀ number type, ledger.runs.count (number, type) =
    if isScoped type calls = true ∧ number ∈ ledger.askers type then 1 else 0
  /-- In all, a factory runs as often as there are scopes that were asked for its type. -/
  runs_of_type : ∀ type, isScoped type calls = true →
    ledger.runs.countP (fun run => decide (run.2 = type)) = (ledger.askers type).length

theorem Sound.isIsolated (hSound : ledger.Sound calls) : ledger.IsIsolated calls where
  explained := hSound.explained
  same_in_scope _ hMem _ hOther hScope hType := hSound.found_eq hMem hOther hScope hType
  own_run _ hMem _ hOther hScoped hScope := hSound.run?_ne hMem hOther hScoped hScope
  count_runs number type := by
    have hRuns := hSound.mem_runs_iff number type
    rw [← mem_askers_iff] at hRuns
    split_ifs with hAsked
    · exact List.count_eq_one_of_mem hSound.runs_nodup (hRuns.mpr hAsked)
    · exact List.count_eq_zero_of_not_mem fun hRun => hAsked (hRuns.mp hRun)
  runs_of_type type hScoped := by
    rw [← (hSound.runs_perm_askers hScoped).length_eq, List.length_map,
      List.countP_eq_length_filter]

end Ledger

/-- Whatever parties do with the same services, and in whatever order, their scopes are nothing to
each other.  The ledger of a run in which all is written down says so (`Ledger.IsIsolated`), and
that run has the same parties in the same state as the one in which nothing is. -/
theorem scopes_are_isolated (calls : List (Registering σ ι)) (registry : Registry σ ρ ι)
    (isCancelled : Token → σ → Bool) (moves : List (Move σ ρ)) (state : σ) :
    let mediator : Mediator σ (Scope σ ι) ρ ι :=
      ⟨registry, (Services.ofCalls calls).provider, isCancelled⟩
    let recorded := (mediator.beside (Services.recording calls)).play (moves.map Move.beside)
      (.empty (state, .empty))
    (mediator.play moves (.empty state)).Mirrors (Scope.Agrees calls) recorded ∧
      recorded.state.2.IsIsolated calls := by
  intro mediator recorded
  obtain ⟨hMirrors, hCovers⟩ := mediator.mirrors_play_empty (Services.shadows_recording calls)
    (Ledger.keeps_covers calls) moves state (Ledger.covers_empty calls)
  exact ⟨hMirrors, hCovers.sound.isIsolated⟩

/-- Two scopes that ask for units in turn have one unit each. -/
example :
    let calls : List (Registering Nat Nat) := [.perScope "Unit" fun state => (state, state + 1)]
    let mediator : Mediator Nat (Scope Nat Nat) Unit Nat :=
      ⟨.empty, (Services.ofCalls calls).provider, fun _ _ => false⟩
    let recorded := (mediator.beside (Services.recording calls)).play
      [.act 0 .openScope, .act 1 .openScope, .act 1 (.resolve "Unit"), .act 0 (.resolve "Unit"),
        .act 1 (.resolve "Unit")] (.empty (5, .empty))
    recorded.state.2.runs = [(1, "Unit"), (0, "Unit")] := by
  decide

end Dispatch
end Switchboard
