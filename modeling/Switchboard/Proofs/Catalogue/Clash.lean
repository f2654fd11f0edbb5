import Switchboard.Proofs.Catalogue.Acceptance
import Switchboard.Proofs.Catalogue.Report
import Mathlib.Data.Nat.Find

/-!
# What collides with what

`Collides` says of each problem when the entry at a position has it with the entries before it: with
any of them that has its contract, with the earliest that has its method and shape of path, and
with the one that was the first to record another name for the first of its parameters that cannot
stand.  An entry whose parameters are found wrong has recorded those before the fault and none
behind it (`Recorded`).  The valid declarations of a list are reported with exactly these
collisions, one after another (`collisions_are_exact`); the others have no part in it.
-/

namespace Switchboard
namespace Catalogue

open Endpoint (Declaration)

/-! ### Parameters that cannot stand -/

section Misnaming

/- A record says which endpoint gave which name to the parameter at the end of a shape. -/
variable (record : String → String → String → Prop) (path : String)

/-- The parameter at a segment has no name, or another one than its shape has in a record. -/
def IsMisnamed (k : Nat) : Prop :=
  ∃ parameter, Route.parameterAt? path k = some parameter ∧
    (parameter.name = "" ∨
      ∃ other name, record (Route.shape (Route.upTo path k)) other name ∧ name ≠ parameter.name)

/-- The first parameter of a path that cannot stand. -/
structure IsFirstMisnamed (k : Nat) (parameter : Route.Parameter) : Prop where
  at_segment : Route.parameterAt? path k = some parameter
  misnamed : IsMisnamed record path k
  first : ∀ l < k, ¬ IsMisnamed record path l

/-- A path gives a name to a shape, by a parameter up to which all parameters can stand. -/
def Names (shape name : String) : Prop :=
  ∃ k parameter, Route.parameterAt? path k = some parameter ∧
    Route.shape (Route.upTo path k) = shape ∧ parameter.name = name ∧
      ∀ l ≤ k, ¬ IsMisnamed record path l

/-- The problem of a path with its first parameter that cannot stand. -/
def IsMisnaming : Problem → Prop
  | .unnamedParameter given => given = path ∧
      ∃ k parameter, IsFirstMisnamed record path k parameter ∧ parameter.name = ""
  | .renamedParameter given name other otherName => given = path ∧
      ∃ k parameter, IsFirstMisnamed record path k parameter ∧ parameter.name = name ∧
        name ≠ "" ∧ otherName ≠ name ∧ record (Route.shape (Route.upTo path k)) other otherName
  | _ => False

end Misnaming

/-- The record in a table. -/
def recordIn (taken : List (String × String × String)) (shape other name : String) : Prop :=
  lookup? shape taken = some (other, name)

section Check

variable {path : String} {taken : List (String × String × String)}

theorem IsFirstMisnamed.unique {record : String → String → String → Prop} {k l : Nat}
    {a b : Route.Parameter} (ha : IsFirstMisnamed record path k a)
    (hb : IsFirstMisnamed record path l b) : k = l ∧ a = b := by
  have hSame : k = l := by
    rcases Nat.lt_trichotomy k l with hLess | hEq | hGreater
    · exact absurd ha.misnamed (hb.first k hLess)
    · exact hEq
    · exact absurd hb.misnamed (ha.first l hGreater)
  subst hSame
  exact ⟨rfl, Option.some.inj (ha.at_segment.symm.trans hb.at_segment)⟩

theorem exists_isFirstMisnamed {record : String → String → String → Prop} {k : Nat}
    (hMisnamed : IsMisnamed record path k) :
    ∃ l parameter, IsFirstMisnamed record path l parameter := by
  classical
  have hSome : ∃ l, IsMisnamed record path l := ⟨k, hMisnamed⟩
  obtain ⟨parameter, hAt, hFault⟩ := Nat.find_spec hSome
  exact ⟨Nat.find hSome, parameter, hAt, ⟨parameter, hAt, hFault⟩,
    fun l hLess => Nat.find_min hSome hLess⟩

theorem IsMisnaming.exists_isMisnamed {record : String → String → String → Prop}
    {problem : Problem} (hMisnaming : IsMisnaming record path problem) :
    ∃ k, IsMisnamed record path k := by
  cases problem with
  | unnamedParameter _ =>
      obtain ⟨-, k, _, hFirst, -⟩ := hMisnaming
      exact ⟨k, hFirst.misnamed⟩
  | renamedParameter _ _ _ _ =>
      obtain ⟨-, k, _, hFirst, -⟩ := hMisnaming
      exact ⟨k, hFirst.misnamed⟩
  | _ => exact hMisnaming.elim

/-- A table has one name for a shape, so a path has one problem at most. -/
theorem IsMisnaming.unique {a b : Problem} (ha : IsMisnaming (recordIn taken) path a)
    (hb : IsMisnaming (recordIn taken) path b) : a = b := by
  cases a with
  | unnamedParameter given =>
      obtain ⟨rfl, k, parameter, hFirst, hEmpty⟩ := ha
      cases b with
      | unnamedParameter other =>
          obtain ⟨rfl, -⟩ := hb
          rfl
      | renamedParameter _ name _ _ =>
          obtain ⟨-, l, second, hSecond, hName, hNe, -⟩ := hb
          obtain ⟨rfl, rfl⟩ := hFirst.unique hSecond
          exact absurd (hName.symm.trans hEmpty) hNe
      | _ => exact hb.elim
  | renamedParameter given name other otherName =>
      obtain ⟨rfl, k, parameter, hFirst, hName, hNe, -, hRecord⟩ := ha
      cases b with
      | unnamedParameter _ =>
          obtain ⟨-, l, second, hSecond, hEmpty⟩ := hb
          obtain ⟨rfl, rfl⟩ := hFirst.unique hSecond
          exact absurd (hName.symm.trans hEmpty) hNe
      | renamedParameter _ _ _ _ =>
          obtain ⟨rfl, l, second, hSecond, rfl, -, -, hOther⟩ := hb
          obtain ⟨rfl, rfl⟩ := hFirst.unique hSecond
          obtain ⟨rfl, rfl⟩ := Prod.mk.inj (Option.some.inj (hRecord.symm.trans hOther))
          rw [hName]
      | _ => exact hb.elim
  | _ => exact ha.elim

/-! ### The check of one path -/

/-- The named shapes of the parameters before a segment. -/
def namedShapesBefore (path : String) (k : Nat) : List (String × String) :=
  namedShapes [] ((Route.segments path).take k)

theorem mem_namedShapesBefore (path : String) (k : Nat) (shape name : String) :
    (shape, name) ∈ namedShapesBefore path k ↔
      ∃ l < k, ∃ parameter, Route.parameterAt? path l = some parameter ∧
        shape = Route.shape (Route.upTo path l) ∧ name = parameter.name := by
  rw [namedShapesBefore, mem_namedShapes_from]
  simp only [List.nil_append, Route.parameterAt?, Option.bind_eq_some_iff, Route.shape_upTo]
  constructor
  · intro hSome
    obtain ⟨l, segment, parameter, hSegment, hParameter, hShape, hName⟩ := hSome
    rw [List.getElem?_take] at hSegment
    split_ifs at hSegment with hLess
    rw [List.take_take, Nat.min_eq_left (by omega)] at hShape
    exact ⟨l, hLess, parameter, ⟨segment, hSegment, hParameter⟩, hShape, hName⟩
  · intro hSome
    obtain ⟨l, hLess, parameter, ⟨segment, hSegment, hParameter⟩, hShape, hName⟩ := hSome
    refine ⟨l, segment, parameter, ?_, hParameter, ?_, hName⟩
    · rw [List.getElem?_take, if_pos hLess, hSegment]
    · rw [List.take_take, Nat.min_eq_left (by omega), hShape]

/-- The named shapes of a path around one of its parameters. -/
theorem exists_namedShapes_eq {k : Nat} {parameter : Route.Parameter}
    (hAt : Route.parameterAt? path k = some parameter) :
    ∃ behind, namedShapes [] (Route.segments path) = namedShapesBefore path k ++
      (Route.shape (Route.upTo path k), parameter.name) :: behind := by
  obtain ⟨segment, hSegment, hParameter⟩ := Option.bind_eq_some_iff.mp hAt
  have hSplit : (Route.segments path).take k ++ segment :: (Route.segments path).drop (k + 1) =
      Route.segments path := by
    obtain ⟨hLess, rfl⟩ := List.getElem?_eq_some_iff.mp hSegment
    rw [List.getElem_cons_drop, List.take_append_drop]
  refine ⟨namedShapes (((Route.segments path).take k).map Route.segmentShape ++
    [Route.segmentShape segment]) ((Route.segments path).drop (k + 1)), ?_⟩
  have hShapes := namedShapes_append [] ((Route.segments path).take k)
    (segment :: (Route.segments path).drop (k + 1))
  rw [hSplit] at hShapes
  rw [hShapes, Route.shape_upTo, List.take_add_one, hSegment]
  simp [namedShapes, hParameter, namedShapesBefore]

/-- The parameters before a segment go through if all of them can stand. -/
theorem exists_checkParameters_before (endpoint : String) {k : Nat}
    (hStand : ∀ l < k, ¬ IsMisnamed (recordIn taken) path l) :
    ∃ after, checkParameters endpoint path (namedShapesBefore path k) taken = (none, after) := by
  have hNone : (checkParameters endpoint path (namedShapesBefore path k) taken).1 = none := by
    apply (checkParameters_fst_eq_none_iff _ _ _ _ ?_).mpr
    · intro shape name hMem
      obtain ⟨l, hLess, parameter, hAt, rfl, rfl⟩ := (mem_namedShapesBefore _ _ _ _).mp hMem
      constructor
      · intro hEmpty
        exact hStand l hLess ⟨parameter, hAt, Or.inl hEmpty⟩
      · intro name hName
        obtain ⟨⟨other, _⟩, hRow, rfl⟩ := Option.map_eq_some_iff.mp hName
        by_contra hNe
        exact hStand l hLess ⟨parameter, hAt, Or.inr ⟨other, _, hRow, hNe⟩⟩
    · intro shape name other hName hOther
      obtain ⟨i, -, a, ha, hShape, rfl⟩ := (mem_namedShapesBefore _ _ _ _).mp hName
      obtain ⟨l, -, b, hb, hSame, rfl⟩ := (mem_namedShapesBefore _ _ _ _).mp hOther
      exact Route.namedAlike_self path i l a b ha hb (hShape.symm.trans hSame)
  exact ⟨_, Prod.ext hNone rfl⟩

/-- The parameters before a segment leave the record of the shape up to it alone. -/
theorem lookup?_shape_upTo {endpoint : String} {k : Nat} {parameter : Route.Parameter}
    (hAt : Route.parameterAt? path k = some parameter)
    {after : List (String × String × String)}
    (hBefore : checkParameters endpoint path (namedShapesBefore path k) taken = (none, after)) :
    lookup? (Route.shape (Route.upTo path k)) after =
      lookup? (Route.shape (Route.upTo path k)) taken := by
  apply Option.ext
  intro row
  obtain ⟨other, name⟩ := row
  rw [lookup?_of_checkParameters_eq_none hBefore, or_iff_left]
  intro hNew
  obtain ⟨l, hLess, second, hSecond, hShape, -⟩ :=
    (mem_namedShapesBefore _ _ _ _).mp hNew.2.2
  have hSame := Route.eq_of_shape_upTo_eq hAt hSecond hShape
  omega

/-- The check stops at the first parameter that cannot stand, and keeps what came before it. -/
theorem checkParameters_of_isFirstMisnamed (endpoint : String) {k : Nat}
    {parameter : Route.Parameter}
    (hFirst : IsFirstMisnamed (recordIn taken) path k parameter) :
    ∃ problem after, IsMisnaming (recordIn taken) path problem ∧
      checkParameters endpoint path (namedShapesBefore path k) taken = (none, after) ∧
      checkParameters endpoint path (namedShapes [] (Route.segments path)) taken =
        (some problem, after) := by
  obtain ⟨after, hBefore⟩ := exists_checkParameters_before endpoint hFirst.first
  obtain ⟨behind, hShapes⟩ := exists_namedShapes_eq hFirst.at_segment
  rw [hShapes, checkParameters_append hBefore, checkParameters,
    lookup?_shape_upTo hFirst.at_segment hBefore]
  by_cases hEmpty : parameter.name = ""
  · exact ⟨.unnamedParameter path, after, ⟨rfl, k, parameter, hFirst, hEmpty⟩, hBefore,
      by simp [hEmpty]⟩
  · obtain ⟨given, hGiven, hFault⟩ := hFirst.misnamed
    obtain rfl := Option.some.inj (hGiven.symm.trans hFirst.at_segment)
    obtain ⟨other, name, hRecord, hNe⟩ := hFault.resolve_left hEmpty
    refine ⟨.renamedParameter path given.name other name, after,
      ⟨rfl, k, given, hFirst, rfl, hEmpty, hNe, hRecord⟩, hBefore, ?_⟩
    rw [recordIn] at hRecord
    simp [hEmpty, hRecord, hNe]

/-- A path whose parameters can all stand goes through. -/
theorem exists_checkParameters_all (endpoint : String)
    (hStand : ∀ l, ¬ IsMisnamed (recordIn taken) path l) :
    ∃ after, checkParameters endpoint path (namedShapes [] (Route.segments path)) taken =
      (none, after) := by
  obtain ⟨after, hAll⟩ := exists_checkParameters_before endpoint
    (k := (Route.segments path).length) fun l _ => hStand l
  rw [namedShapesBefore, List.take_length] at hAll
  exact ⟨after, hAll⟩

/-- The check of a path finds its problem with the first parameter that cannot stand. -/
theorem checkParameters_fst_eq_some_iff (endpoint : String) (problem : Problem) :
    (checkParameters endpoint path (namedShapes [] (Route.segments path)) taken).1 =
      some problem ↔ IsMisnaming (recordIn taken) path problem := by
  by_cases hStand : ∀ l, ¬ IsMisnamed (recordIn taken) path l
  · obtain ⟨after, hAll⟩ := exists_checkParameters_all endpoint hStand
    rw [hAll]
    constructor
    · intro hNone
      cases hNone
    · intro hMisnaming
      obtain ⟨k, hMisnamed⟩ := hMisnaming.exists_isMisnamed
      exact absurd hMisnamed (hStand k)
  · obtain ⟨k, hMisnamed⟩ := not_forall_not.mp hStand
    obtain ⟨l, parameter, hFirst⟩ := exists_isFirstMisnamed hMisnamed
    obtain ⟨found, after, hFound, -, hCheck⟩ :=
      checkParameters_of_isFirstMisnamed endpoint hFirst
    rw [hCheck, Option.some.injEq]
    constructor
    · intro hEq
      rwa [← hEq]
    · exact hFound.unique

/-- What the check of a path adds to the record are the names that the path gives to shapes without
one. -/
theorem lookup?_checkParameters_iff (endpoint shape other name : String) :
    lookup? shape (checkParameters endpoint path (namedShapes [] (Route.segments path)) taken).2 =
        some (other, name) ↔
      lookup? shape taken = some (other, name) ∨ lookup? shape taken = none ∧
        other = endpoint ∧ Names (recordIn taken) path shape name := by
  by_cases hStand : ∀ l, ¬ IsMisnamed (recordIn taken) path l
  · obtain ⟨after, hAll⟩ := exists_checkParameters_all endpoint hStand
    have hNames : (shape, name) ∈ namedShapes [] (Route.segments path) ↔
        Names (recordIn taken) path shape name := by
      rw [mem_namedShapes]
      constructor
      · intro hSome
        obtain ⟨k, parameter, hAt, rfl, rfl⟩ := hSome
        exact ⟨k, parameter, hAt, rfl, rfl, fun l _ => hStand l⟩
      · intro hSome
        obtain ⟨k, parameter, hAt, rfl, rfl, -⟩ := hSome
        exact ⟨k, parameter, hAt, rfl, rfl⟩
    rw [← hNames, hAll, lookup?_of_checkParameters_eq_none hAll]
  · obtain ⟨k, hMisnamed⟩ := not_forall_not.mp hStand
    obtain ⟨l, parameter, hFirst⟩ := exists_isFirstMisnamed hMisnamed
    obtain ⟨problem, after, -, hBefore, hCheck⟩ :=
      checkParameters_of_isFirstMisnamed endpoint hFirst
    -- The parameters up to which all can stand are those before the first that cannot.
    have hNames : (shape, name) ∈ namedShapesBefore path l ↔
        Names (recordIn taken) path shape name := by
      rw [mem_namedShapesBefore]
      constructor
      · intro hSome
        obtain ⟨i, hLess, given, hAt, rfl, rfl⟩ := hSome
        exact ⟨i, given, hAt, rfl, rfl, fun m hm => hFirst.first m (by omega)⟩
      · intro hSome
        obtain ⟨i, given, hAt, rfl, rfl, hUpTo⟩ := hSome
        have hLess : i < l := by
          by_contra hNot
          exact hUpTo l (by omega) hFirst.misnamed
        exact ⟨i, hLess, given, hAt, rfl, rfl⟩
    rw [← hNames, hCheck, lookup?_of_checkParameters_eq_none hBefore]

end Check

/-! ### What entries collide with -/

/-- The name that one of the first entries of a list was the first to give to a shape. -/
def Recorded (entries : List Entry) : Nat → String → String → String → Prop
  | 0, _, _, _ => False
  | j + 1, shape, endpoint, name =>
      Recorded entries j shape endpoint name ∨
        (∀ other otherName, ¬ Recorded entries j shape other otherName) ∧
          ∃ entry, entries[j]? = some entry ∧ entry.route.endpoint = endpoint ∧
            Names (Recorded entries j) entry.route.path shape name

/-- The method of an entry and the shape of its path. -/
def Entry.routeKey (entry : Entry) : Endpoint.Method × String :=
  (entry.route.method, Route.shape entry.route.path)

/-- The problems that the entry at a position has with the entries before it. -/
def Collides (entries : List Entry) (j : Nat) (entry : Entry) : Problem → Prop
  | .repeatedContract contract => contract = entry.contract.id.display ∧
      ∃ i earlier, i < j ∧ entries[i]? = some earlier ∧ earlier.contract.id = entry.contract.id
  | .takenRoute method path other => method = entry.route.method ∧ path = entry.route.path ∧
      ∃ i earlier, i < j ∧ entries[i]? = some earlier ∧ earlier.routeKey = entry.routeKey ∧
        (∀ l another, l < i → entries[l]? = some another → another.routeKey ≠ entry.routeKey) ∧
          other = earlier.route.endpoint
  | problem => IsMisnaming (Recorded entries j) entry.route.path problem

/-- The tables hold what the first entries of a list have taken, with or without collisions. -/
structure Taken.Tracks (taken : Taken) (entries : List Entry) (j : Nat) : Prop where
  contracts : taken.contracts = (entries.take j).map fun entry => entry.contract.id
  routes : ∀ key, lookup? key taken.routes =
    ((entries.take j).find? fun entry => decide (entry.routeKey = key)).map
      fun entry => entry.route.endpoint
  parameters : recordIn taken.parameters = Recorded entries j

section Walk

variable {taken : Taken} {entries : List Entry} {j : Nat} {entry : Entry}

theorem Taken.tracks_empty (entries : List Entry) : Taken.empty.Tracks entries 0 := by
  refine ⟨rfl, fun _ => rfl, ?_⟩
  ext shape other name
  simp [recordIn, Taken.empty, lookup?_nil, Recorded]

/-- One step of the walk, whatever is found wrong with the entry. -/
theorem Taken.Tracks.checkEntry (hTracks : taken.Tracks entries j)
    (hAt : entries[j]? = some entry) :
    (Catalogue.checkEntry taken entry).2.Tracks entries (j + 1) := by
  have hTake : entries.take (j + 1) = entries.take j ++ [entry] := by
    rw [List.take_add_one, hAt]
    rfl
  refine ⟨?_, fun key => ?_, ?_⟩
  · rw [checkEntry_contracts, hTracks.contracts, hTake, List.map_append]
    rfl
  · rw [checkEntry_routes, hTake, List.find?_append, Option.map_or, ← hTracks.routes key,
      List.find?_singleton, Entry.routeKey]
    by_cases hKey : (entry.route.method, Route.shape entry.route.path) = key
    · subst hKey
      cases hFound : lookup? (entry.route.method, Route.shape entry.route.path) taken.routes with
      | some other => simp [hFound]
      | none => simp [hFound, lookup?_append_singleton]
    · cases lookup? (entry.route.method, Route.shape entry.route.path) taken.routes with
      | some other => simp [hKey]
      | none => simp [hKey, lookup?_append_singleton]
  · ext shape other name
    rw [checkEntry_parameters, recordIn, lookup?_checkParameters_iff, hTracks.parameters,
      Recorded, ← hTracks.parameters, Option.eq_none_iff_forall_ne_some]
    simp only [hAt, Option.some.injEq, exists_eq_left', recordIn, Prod.forall, ne_eq,
      eq_comm (a := other)]

/-- An entry stands before a position. -/
theorem mem_take_iff : entry ∈ entries.take j ↔ ∃ i < j, entries[i]? = some entry := by
  rw [List.mem_iff_getElem?]
  simp only [List.getElem?_take, Option.ite_none_right_eq_some]

/-- The earliest entry before a position that passes a test. -/
theorem find?_take_eq_some_iff (p : Entry → Prop) [DecidablePred p] :
    (entries.take j).find? (fun entry => decide (p entry)) = some entry ↔
      ∃ i < j, entries[i]? = some entry ∧ p entry ∧
        ∀ l another, l < i → entries[l]? = some another → ¬ p another := by
  rw [List.find?_eq_some_iff_getElem]
  constructor
  · intro hFound
    obtain ⟨hPasses, i, hi, rfl, hEarlier⟩ := hFound
    rw [List.length_take] at hi
    refine ⟨i, by omega, ?_, of_decide_eq_true hPasses, fun l another hLess hAnother => ?_⟩
    · rw [List.getElem_take, List.getElem?_eq_getElem]
    · have hNot := hEarlier l hLess
      obtain ⟨-, rfl⟩ := List.getElem?_eq_some_iff.mp hAnother
      simpa using hNot
  · intro hFirst
    obtain ⟨i, hi, hAt, hPasses, hEarlier⟩ := hFirst
    obtain ⟨hLength, rfl⟩ := List.getElem?_eq_some_iff.mp hAt
    refine ⟨decide_eq_true hPasses, i, by rw [List.length_take]; omega, by simp, ?_⟩
    intro l hLess
    have hNot := hEarlier l entries[l] hLess (List.getElem?_eq_getElem _)
    simpa using hNot

theorem Taken.Tracks.collides_contract_iff (hTracks : taken.Tracks entries j) (entry : Entry)
    (contract : String) : Collides entries j entry (.repeatedContract contract) ↔
      contract = entry.contract.id.display ∧ entry.contract.id ∈ taken.contracts := by
  rw [hTracks.contracts, List.mem_map]
  simp only [mem_take_iff]
  apply and_congr_right'
  constructor
  · intro hSome
    obtain ⟨i, earlier, hLess, hAt, hId⟩ := hSome
    exact ⟨earlier, ⟨i, hLess, hAt⟩, hId⟩
  · intro hSome
    obtain ⟨earlier, ⟨i, hLess, hAt⟩, hId⟩ := hSome
    exact ⟨i, earlier, hLess, hAt, hId⟩

theorem Taken.Tracks.collides_route_iff (hTracks : taken.Tracks entries j) (entry : Entry)
    (method : Endpoint.Method) (path other : String) :
    Collides entries j entry (.takenRoute method path other) ↔
      lookup? entry.routeKey taken.routes = some other ∧
        entry.route.method = method ∧ entry.route.path = path := by
  rw [hTracks.routes, Option.map_eq_some_iff]
  simp only [find?_take_eq_some_iff]
  constructor
  · intro hCollides
    obtain ⟨rfl, rfl, i, earlier, hLess, hAt, hKey, hEarliest, rfl⟩ := hCollides
    exact ⟨⟨earlier, ⟨i, hLess, hAt, hKey, hEarliest⟩, rfl⟩, rfl, rfl⟩
  · intro hFound
    obtain ⟨⟨earlier, ⟨i, hLess, hAt, hKey, hEarliest⟩, rfl⟩, rfl, rfl⟩ := hFound
    exact ⟨rfl, rfl, i, earlier, hLess, hAt, hKey, hEarliest, rfl⟩

theorem not_collides_of_rank_lt {problem : Problem} (hAlone : problem.rank < 7) :
    ¬ Collides entries j entry problem := by
  cases problem <;> simp_all [Problem.rank, Collides, IsMisnaming]

/-- The collisions of one entry are reported, each once and in the order contract, route,
parameter. -/
theorem Taken.Tracks.reports (hTracks : taken.Tracks entries j) (entry : Entry) :
    Reports (fun a b => a.rank < b.rank) (Collides entries j entry)
      (Catalogue.checkEntry taken entry).1 := by
  have hContract : Reports (fun a b => a.rank < b.rank) (Ranked (Collides entries j entry) 7 8)
      (if entry.contract.id ∈ taken.contracts then
        [Problem.repeatedContract entry.contract.id.display] else []) := by
    have hIff := hTracks.collides_contract_iff entry
    split_ifs with hTaken
    · refine reports_singleton fun p => ?_
      cases p <;> simp [Ranked, Problem.rank, hIff, hTaken]
    · refine reports_nil fun p => ?_
      cases p <;> simp [Ranked, Problem.rank, hIff, hTaken]
  have hRoute : Reports (fun a b => a.rank < b.rank) (Ranked (Collides entries j entry) 8 9)
      ((lookup? entry.routeKey taken.routes).map
        (Problem.takenRoute entry.route.method entry.route.path)).toList := by
    have hIff := hTracks.collides_route_iff entry
    refine reports_toList fun p => ?_
    rw [Option.map_eq_some_iff]
    cases p <;> simp [Ranked, Problem.rank, hIff]
  have hParameter : Reports (fun a b => a.rank < b.rank)
      (Ranked (Collides entries j entry) 9 10)
      (checkParameters entry.route.endpoint entry.route.path
        (namedShapes [] (Route.segments entry.route.path)) taken.parameters).1.toList := by
    refine reports_toList fun p => ?_
    rw [checkParameters_fst_eq_some_iff, hTracks.parameters]
    cases p <;> simp [Ranked, Problem.rank, Collides, IsMisnaming]
  have hAll := (hContract.append id hRoute (by decide) (by decide)).append id hParameter
    (by decide) (by decide)
  rw [checkEntry_fst]
  refine hAll.congr fun problem => ⟨fun hRanked => hRanked.1, fun hCollides => ⟨hCollides, ?_⟩⟩
  constructor
  · by_contra hAlone
    exact not_collides_of_rank_lt (by omega) hCollides
  · cases problem <;> simp [Problem.rank]

end Walk

/-- The walk over the entries that are left reports the collisions of one after another. -/
theorem Taken.Tracks.exists_reports {taken : Taken} {before rest : List Entry}
    (hTracks : taken.Tracks (before ++ rest) before.length) :
    ∃ reports, collisionsAfter taken rest =
        underNames (rest.map (·.route.endpoint)) reports ∧
      reports.length = rest.length ∧
      ∀ j entry problems, rest[j]? = some entry → reports[j]? = some problems →
        Reports (fun a b => a.rank < b.rank)
          (Collides (before ++ rest) (before.length + j) entry) problems := by
  induction rest generalizing taken before with
  | nil => exact ⟨[], rfl, rfl, by simp⟩
  | cons entry rest ih =>
      -- The entry goes over to those that lie behind.
      have hAt : (before ++ entry :: rest)[before.length]? = some entry := by simp
      have hStep := hTracks.checkEntry hAt
      have hShift : before ++ entry :: rest = before ++ [entry] ++ rest := by simp
      have hLength : before.length + 1 = (before ++ [entry]).length := by simp
      rw [hShift, hLength] at hStep
      obtain ⟨reports, hAfter, hSame, hEach⟩ := ih hStep
      refine ⟨(Catalogue.checkEntry taken entry).1 :: reports, ?_, ?_, ?_⟩
      · show _ ++ collisionsAfter (Catalogue.checkEntry taken entry).2 rest = _
        rw [hAfter]
        rfl
      · rw [List.length_cons, List.length_cons, hSame]
      · intro j other problems hOther hProblems
        cases j with
        | zero =>
            obtain rfl := Option.some.inj hOther
            obtain rfl := Option.some.inj hProblems
            exact hTracks.reports entry
        | succ j =>
            have hReports := hEach j other problems hOther hProblems
            rwa [← hShift, ← hLength, Nat.add_right_comm] at hReports

/-! ### The collisions of a list of declarations -/

/-- The declarations that are valid on their own. -/
def validOf (ds : List Declaration) : List Declaration :=
  ds.filter fun d => decide (IsValid d)

/-- The entries that are checked for collisions are those of the valid declarations. -/
theorem compiles_validOf (routePrefix : String) (ds : List Declaration) :
    Compiles routePrefix (validOf ds) (compileEach routePrefix ds).2 := by
  induction ds with
  | nil => exact List.Forall₂.nil
  | cons d rest ih =>
      rw [validOf, List.filter_cons]
      cases hEntry : entryOf routePrefix d with
      | ok entry =>
          have hValid : IsValid d := (exists_entryOf_eq_ok_iff routePrefix d).mp ⟨entry, hEntry⟩
          simp only [compileEach, hEntry, hValid, decide_true, if_true]
          exact List.Forall₂.cons hEntry ih
      | error problems =>
          have hNot : ¬ IsValid d := by
            intro hValid
            obtain ⟨entry, hOk⟩ := (exists_entryOf_eq_ok_iff routePrefix d).mpr hValid
            cases hEntry.symm.trans hOk
          simp only [compileEach, hEntry, hNot, decide_false]
          exact ih

theorem endpoint_of_entryOf_eq_ok {routePrefix : String} {d : Declaration} {entry : Entry}
    (hEntry : entryOf routePrefix d = .ok entry) : entry.route.endpoint = d.qualifiedName := by
  obtain ⟨-, parts, -, rfl⟩ := (entryOf_eq_ok_iff routePrefix d entry).mp hEntry
  rfl

theorem Compiles.map_endpoint {routePrefix : String} {ds : List Declaration}
    {entries : List Entry} (hAll : Compiles routePrefix ds entries) :
    entries.map (·.route.endpoint) = ds.map (·.qualifiedName) := by
  induction hAll with
  | nil => rfl
  | cons hEntry _ ih => rw [List.map_cons, List.map_cons, endpoint_of_entryOf_eq_ok hEntry, ih]

theorem HasFault.not_isCollision {d : Declaration} {problem : Problem}
    (hFault : HasFault d problem) : ¬ problem.IsCollision := by
  cases problem <;> simp_all [HasFault, Problem.IsCollision, Problem.rank]

theorem not_isCollision_of_mem_compileEach {routePrefix : String} {ds : List Declaration}
    {diagnostic : Diagnostic} (hMem : diagnostic ∈ (compileEach routePrefix ds).1) :
    ¬ diagnostic.problem.IsCollision := by
  rw [compileEach_fst, underNames, List.zipWith_map, List.zipWith_self, List.mem_flatten] at hMem
  obtain ⟨diagnostics, hDiagnostics, hDiagnostic⟩ := hMem
  obtain ⟨d, -, rfl⟩ := List.mem_map.mp hDiagnostics
  obtain ⟨problem, hProblem, rfl⟩ := List.mem_map.mp hDiagnostic
  exact (((isReport_problemsOf d).mem_iff problem).mp hProblem).not_isCollision

/-- **Collisions are reported exactly.**  Behind what declarations have wrong alone stand the
collisions of the valid ones, one after another, each under the name of its declaration.  A list
without the others is refused with these collisions and nothing else. -/
theorem collisions_are_exact (routePrefix : String) (ds : List Declaration) :
    ∃ alone entries reports, Compiles routePrefix (validOf ds) entries ∧
      diagnosticsOf (compile routePrefix ds) =
        alone ++ underNames ((validOf ds).map (·.qualifiedName)) reports ∧
      (∀ diagnostic ∈ alone, ¬ diagnostic.problem.IsCollision) ∧
      reports.length = entries.length ∧
      (∀ j entry problems, entries[j]? = some entry → reports[j]? = some problems →
        Reports (fun a b => a.rank < b.rank) (Collides entries j entry) problems) ∧
      diagnosticsOf (compile routePrefix (validOf ds)) =
        underNames ((validOf ds).map (·.qualifiedName)) reports := by
  have hAll := compiles_validOf routePrefix ds
  have hStart : Taken.empty.Tracks ([] ++ (compileEach routePrefix ds).2)
      ([] : List Entry).length := Taken.tracks_empty _
  obtain ⟨reports, hCollisions, hLength, hEach⟩ := hStart.exists_reports
  rw [hAll.map_endpoint] at hCollisions
  simp only [List.nil_append, List.length_nil, Nat.zero_add] at hEach
  refine ⟨(compileEach routePrefix ds).1, (compileEach routePrefix ds).2, reports, hAll, ?_,
    fun diagnostic => not_isCollision_of_mem_compileEach, hLength, hEach, ?_⟩
  · rw [diagnosticsOf_compile, ← hCollisions]
    rfl
  · rw [diagnosticsOf_compile, ← hCollisions, diagnose, hAll.eq_compileEach]
    rfl

/-- A path whose first parameter has another name records nothing, so the parameter behind it keeps
no later path from naming the same place. -/
example :
    let sample := fun name route => ((((Declaration.bare "app::Orders" name .get).withRoute
      route).withQuery ⟨none, false⟩).withHandler ⟨[], some "Order"⟩)
    diagnosticsOf (compile "" [sample "Find" "{id}", sample "Read" "{key}/lines/{line}",
      sample "Text" "{id}/lines/{number}/text"]) =
    [⟨"app::Orders::Read", .renamedParameter "/orders/{key}/lines/{line}" "key"
      "app::Orders::Find" "id"⟩] := by
  decide +kernel

end Catalogue
end Switchboard
