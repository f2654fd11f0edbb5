import Switchboard.Catalogue.Collision
import Switchboard.Proofs.Route.Shape

/-!
# What the walk over entries decides

The walk that looks for collisions keeps three tables and compares each entry with what stands in
them.  As long as it has found nothing wrong, the tables hold exactly what the entries behind it
have taken (`Taken.Holds`), and so the next entry passes exactly if it is apart from each of them.
Hence the walk finds nothing at all if and only if any two entries are apart and all parameters are
named (`collisions_eq_nil_iff`): the order in which it compares does not matter.
-/

namespace Switchboard
namespace Catalogue

/-! ### Tables -/

theorem lookup?_nil {κ α : Type} [DecidableEq κ] (key : κ) :
    lookup? key ([] : List (κ × α)) = none := rfl

theorem lookup?_append_singleton {κ α : Type} [DecidableEq κ] (key other : κ) (value : α)
    (rows : List (κ × α)) :
    lookup? key (rows ++ [(other, value)]) =
      (lookup? key rows).or (if other = key then some value else none) := by
  unfold lookup?
  rw [List.find?_append]
  cases rows.find? fun row => decide (row.1 = key) with
  | some row => simp
  | none =>
      by_cases hKey : other = key
      · simp [hKey]
      · simp [hKey]

theorem lookup?_append_of_ne {κ α : Type} [DecidableEq κ] {key other : κ} (hNe : other ≠ key)
    (value : α) (rows : List (κ × α)) :
    lookup? key (rows ++ [(other, value)]) = lookup? key rows := by
  rw [lookup?_append_singleton, if_neg hNe, Option.or_none]

theorem lookup?_filter_ne {κ α : Type} [DecidableEq κ] (key other : κ) (rows : List (κ × α)) :
    lookup? key (rows.filter fun row => decide (row.1 ≠ other)) =
      if key = other then none else lookup? key rows := by
  unfold lookup?
  rw [List.find?_filter]
  split_ifs with hKey
  · subst hKey
    simp [List.find?_eq_none]
  · congr 2
    funext row
    by_cases hRow : row.1 = key
    · simp [hRow, hKey]
    · simp [hRow]

/-- The name that is recorded for the parameter at the end of a shape. -/
def nameAt? (taken : List (String × String × String)) (shape : String) : Option String :=
  (lookup? shape taken).map (·.2)

theorem nameAt?_append_singleton (taken : List (String × String × String))
    (shape key endpoint name : String) :
    nameAt? (taken ++ [(key, endpoint, name)]) shape =
      (nameAt? taken shape).or (if key = shape then some name else none) := by
  unfold nameAt?
  rw [lookup?_append_singleton]
  cases lookup? shape taken with
  | some row => simp
  | none =>
      by_cases hKey : key = shape
      · simp [hKey]
      · simp [hKey]

/-! ### The parameters of one path -/

theorem namedShapes_append (before segments others : List String) :
    namedShapes before (segments ++ others) =
      namedShapes before segments ++
        namedShapes (before ++ segments.map Route.segmentShape) others := by
  induction segments generalizing before with
  | nil => simp [namedShapes]
  | cons segment rest ih =>
      rw [List.cons_append, namedShapes, namedShapes]
      cases Route.parameter? segment <;> simp [ih]

theorem mem_namedShapes_from (before segments : List String) (shape name : String) :
    (shape, name) ∈ namedShapes before segments ↔
      ∃ i segment parameter, segments[i]? = some segment ∧
        Route.parameter? segment = some parameter ∧
        shape = Text.glue '/' (before ++ (segments.take (i + 1)).map Route.segmentShape) ∧
        name = parameter.name := by
  induction segments generalizing before with
  | nil => simp [namedShapes]
  | cons first rest ih =>
      -- The parameters of the rest are the parameters of all segments but the first.
      have hRest : (shape, name) ∈ namedShapes (before ++ [Route.segmentShape first]) rest ↔
          ∃ i segment parameter, (first :: rest)[i + 1]? = some segment ∧
            Route.parameter? segment = some parameter ∧
            shape = Text.glue '/'
              (before ++ ((first :: rest).take (i + 1 + 1)).map Route.segmentShape) ∧
            name = parameter.name := by
        simpa using ih (before ++ [Route.segmentShape first])
      cases hFirst : Route.parameter? first with
      | none =>
          simp only [namedShapes, hFirst]
          rw [hRest]
          constructor
          · rintro ⟨i, hFound⟩
            exact ⟨i + 1, hFound⟩
          · rintro ⟨i, segment, parameter, hSegment, hParameter, hEq⟩
            cases i with
            | zero =>
                obtain rfl : first = segment := by simpa using hSegment
                rw [hFirst] at hParameter
                contradiction
            | succ i => exact ⟨i, segment, parameter, hSegment, hParameter, hEq⟩
      | some parameter =>
          simp only [namedShapes, hFirst, List.mem_cons]
          rw [hRest]
          constructor
          · rintro (hHead | ⟨i, hFound⟩)
            · obtain ⟨rfl, rfl⟩ := Prod.mk.inj hHead
              exact ⟨0, first, parameter, by simp, hFirst, by simp, rfl⟩
            · exact ⟨i + 1, hFound⟩
          · rintro ⟨i, segment, other, hSegment, hParameter, hShape, hName⟩
            cases i with
            | zero =>
                obtain rfl : first = segment := by simpa using hSegment
                rw [hFirst] at hParameter
                obtain rfl := Option.some.inj hParameter
                exact Or.inl (by simp [hShape, hName])
            | succ i => exact Or.inr ⟨i, segment, other, hSegment, hParameter, hShape, hName⟩

/-- The named shapes of a path are its parameters with the shapes of the path up to them. -/
theorem mem_namedShapes (path shape name : String) :
    (shape, name) ∈ namedShapes [] (Route.segments path) ↔
      ∃ i parameter, Route.parameterAt? path i = some parameter ∧
        shape = Route.shape (Route.upTo path i) ∧ name = parameter.name := by
  rw [mem_namedShapes_from]
  simp only [List.nil_append, Route.parameterAt?, Option.bind_eq_some_iff, Route.shape_upTo]
  constructor
  · rintro ⟨i, segment, parameter, hSegment, hParameter, hShape, hName⟩
    exact ⟨i, parameter, ⟨segment, hSegment, hParameter⟩, hShape, hName⟩
  · rintro ⟨i, parameter, ⟨segment, hSegment, hParameter⟩, hShape, hName⟩
    exact ⟨i, segment, parameter, hSegment, hParameter, hShape, hName⟩

/-- Two paths name parameters alike exactly if equal shapes have equal names. -/
theorem namedAlike_iff (path other : String) :
    Route.NamedAlike path other ↔
      ∀ shape name otherName, (shape, name) ∈ namedShapes [] (Route.segments path) →
        (shape, otherName) ∈ namedShapes [] (Route.segments other) → name = otherName := by
  simp only [mem_namedShapes]
  constructor
  · rintro hAlike shape name otherName ⟨i, a, ha, hShape, rfl⟩ ⟨j, b, hb, hOther, rfl⟩
    exact hAlike i j a b ha hb (hShape.symm.trans hOther)
  · intro hAlike i j a b ha hb hShape
    exact hAlike _ _ _ ⟨i, a, ha, rfl, rfl⟩ ⟨j, b, hb, hShape, rfl⟩

/-- What the check of one parameter finds, and the record behind it. -/
inductive ChecksTo (endpoint path shape name : String) (taken : List (String × String × String)) :
    Option Problem → List (String × String × String) → Prop
  | unnamed (hName : name = "") :
      ChecksTo endpoint path shape name taken (some (.unnamedParameter path)) taken
  | renamed {other otherName : String} (hName : name ≠ "")
      (hFound : lookup? shape taken = some (other, otherName)) (hOther : otherName ≠ name) :
      ChecksTo endpoint path shape name taken
        (some (.renamedParameter path name other otherName)) taken
  | stands (hName : name ≠ "") (hRecorded : nameAt? taken shape = some name) :
      ChecksTo endpoint path shape name taken none taken
  | fresh (hName : name ≠ "") (hFree : lookup? shape taken = none) :
      ChecksTo endpoint path shape name taken none (taken ++ [(shape, endpoint, name)])

/-- One parameter is checked before the others, which are looked at only if nothing is found. -/
theorem exists_checksTo (endpoint path shape name : String)
    (taken : List (String × String × String)) :
    ∃ found next, ChecksTo endpoint path shape name taken found next ∧
      ∀ rest, checkParameters endpoint path ((shape, name) :: rest) taken =
        match found with
        | some problem => (some problem, next)
        | none => checkParameters endpoint path rest next := by
  by_cases hEmpty : name = ""
  · exact ⟨_, _, .unnamed hEmpty, fun rest => by simp [checkParameters, hEmpty]⟩
  · cases hFound : lookup? shape taken with
    | none =>
        exact ⟨_, _, .fresh hEmpty hFound,
          fun rest => by simp [checkParameters, hEmpty, hFound]⟩
    | some row =>
        obtain ⟨other, otherName⟩ := row
        by_cases hSame : otherName = name
        · have hRecorded : nameAt? taken shape = some name := by simp [nameAt?, hFound, hSame]
          exact ⟨_, _, .stands hEmpty hRecorded,
            fun rest => by simp [checkParameters, hEmpty, hFound, hSame]⟩
        · exact ⟨_, _, .renamed hEmpty hFound hSame,
            fun rest => by simp [checkParameters, hEmpty, hFound, hSame]⟩

theorem checkParameters_append {endpoint path : String} {params : List (String × String)}
    {taken after : List (String × String × String)}
    (hCheck : checkParameters endpoint path params taken = (none, after))
    (others : List (String × String)) :
    checkParameters endpoint path (params ++ others) taken =
      checkParameters endpoint path others after := by
  induction params generalizing taken with
  | nil =>
      obtain ⟨-, rfl⟩ := Prod.mk.inj hCheck
      rfl
  | cons param rest ih =>
      obtain ⟨found, next, -, hCons⟩ := exists_checksTo endpoint path param.1 param.2 taken
      rw [hCons] at hCheck
      rw [List.cons_append, hCons]
      cases found with
      | none => exact ih hCheck
      | some problem => cases hCheck

/-- A record that stands stays as it is, and what is new belongs to the endpoint that is checked. -/
theorem exists_lookup?_checkParameters (endpoint path : String) (params : List (String × String))
    (taken : List (String × String × String)) (shape : String) :
    ∃ own : Option String, lookup? shape (checkParameters endpoint path params taken).2 =
      (lookup? shape taken).or (own.map fun name => (endpoint, name)) := by
  induction params generalizing taken with
  | nil => exact ⟨none, by simp [checkParameters]⟩
  | cons param rest ih =>
      obtain ⟨first, given⟩ := param
      obtain ⟨found, next, hStep, hCons⟩ := exists_checksTo endpoint path first given taken
      rw [hCons]
      cases hStep with
      | unnamed hName => exact ⟨none, by simp⟩
      | renamed hName hFound hOther => exact ⟨none, by simp⟩
      | stands hName hRecorded => exact ih taken
      | fresh hName hFree =>
          obtain ⟨own, hOwn⟩ := ih (taken ++ [(first, endpoint, given)])
          dsimp only
          rw [hOwn, lookup?_append_singleton]
          by_cases hFirst : first = shape
          · subst hFirst
            exact ⟨some given, by simp [hFree]⟩
          · exact ⟨own, by simp [hFirst]⟩

/-- What the record holds after the parameters of a path went through. -/
theorem nameAt?_of_checkParameters_eq_none {endpoint path : String}
    {params : List (String × String)} {taken after : List (String × String × String)}
    (hCheck : checkParameters endpoint path params taken = (none, after))
    (shape name : String) :
    nameAt? after shape = some name ↔
      nameAt? taken shape = some name ∨ (shape, name) ∈ params := by
  induction params generalizing taken with
  | nil =>
      obtain ⟨-, rfl⟩ := Prod.mk.inj hCheck
      simp
  | cons param rest ih =>
      obtain ⟨first, given⟩ := param
      obtain ⟨found, next, hStep, hCons⟩ := exists_checksTo endpoint path first given taken
      rw [hCons] at hCheck
      cases hStep with
      | unnamed hName => cases hCheck
      | renamed hName hFound hOther => cases hCheck
      | stands hName hRecorded =>
          -- An earlier record with the same name is kept, and no other is made.
          rw [ih hCheck, List.mem_cons, Prod.mk.injEq]
          constructor
          · rintro (hTaken | hRest)
            · exact Or.inl hTaken
            · exact Or.inr (Or.inr hRest)
          · rintro (hTaken | ⟨rfl, rfl⟩ | hRest)
            · exact Or.inl hTaken
            · exact Or.inl hRecorded
            · exact Or.inr hRest
      | fresh hName hFree =>
          have hNone : nameAt? taken first = none := by simp [nameAt?, hFree]
          rw [ih hCheck, nameAt?_append_singleton, List.mem_cons, Prod.mk.injEq]
          by_cases hFirst : first = shape
          · subst hFirst
            simp [hNone, eq_comm]
          · simp [hFirst, Ne.symm hFirst]

/-- The whole record after the parameters of a path went through: whatever is new in it stands for a
parameter of this path. -/
theorem lookup?_of_checkParameters_eq_none {endpoint path : String}
    {params : List (String × String)} {taken after : List (String × String × String)}
    (hCheck : checkParameters endpoint path params taken = (none, after))
    (shape other name : String) :
    lookup? shape after = some (other, name) ↔
      lookup? shape taken = some (other, name) ∨
        lookup? shape taken = none ∧ other = endpoint ∧ (shape, name) ∈ params := by
  have hName := nameAt?_of_checkParameters_eq_none hCheck shape name
  obtain ⟨own, hOwn⟩ := exists_lookup?_checkParameters endpoint path params taken shape
  rw [hCheck] at hOwn
  simp only [nameAt?, hOwn] at hName ⊢
  cases hFound : lookup? shape taken with
  | some found => simp
  | none =>
      rw [hFound] at hName
      cases own with
      | none =>
          have hNot : (shape, name) ∉ params := by simpa using hName
          simp [hNot]
      | some given =>
          simp only [Option.map_some, Option.none_or, Option.some.injEq, reduceCtorEq, false_or,
            true_and, Prod.mk.injEq, Option.map_none] at hName ⊢
          rw [hName, eq_comm]

theorem forall_pair_mem_cons {α β : Type} {P : α → β → Prop} {a : α} {b : β}
    {rest : List (α × β)} :
    (∀ x y, (x, y) ∈ (a, b) :: rest → P x y) ↔ P a b ∧ ∀ x y, (x, y) ∈ rest → P x y := by
  constructor
  · exact fun hAll => ⟨hAll a b (by simp), fun x y hMem => hAll x y (List.mem_cons_of_mem _ hMem)⟩
  · rintro ⟨hFirst, hRest⟩ x y hMem
    rcases List.mem_cons.mp hMem with hHead | hTail
    · obtain ⟨rfl, rfl⟩ := Prod.mk.inj hHead
      exact hFirst
    · exact hRest x y hTail

/-- The parameters of a path go through if each has a name, and the recorded one where there is a
record. -/
theorem checkParameters_fst_eq_none_iff (endpoint path : String)
    (params : List (String × String)) (taken : List (String × String × String))
    (hConsistent : ∀ shape name other, (shape, name) ∈ params → (shape, other) ∈ params →
      name = other) :
    (checkParameters endpoint path params taken).1 = none ↔
      ∀ shape name, (shape, name) ∈ params →
        name ≠ "" ∧ ∀ other, nameAt? taken shape = some other → other = name := by
  induction params generalizing taken with
  | nil => simp [checkParameters]
  | cons param rest ih =>
      obtain ⟨first, given⟩ := param
      have hRest : ∀ shape name other, (shape, name) ∈ rest → (shape, other) ∈ rest →
          name = other := fun shape name other hName hOther =>
        hConsistent shape name other (List.mem_cons_of_mem _ hName)
          (List.mem_cons_of_mem _ hOther)
      have hFirst : ∀ name, (first, name) ∈ rest → name = given := fun name hName =>
        hConsistent first name given (List.mem_cons_of_mem _ hName) (by simp)
      obtain ⟨found, next, hStep, hCons⟩ := exists_checksTo endpoint path first given taken
      rw [hCons, forall_pair_mem_cons]
      cases hStep with
      | unnamed hName => simp [hName]
      | renamed hName hFound hOther => simp [nameAt?, hFound, hOther]
      | stands hName hRecorded =>
          have hHere : ∀ other, nameAt? taken first = some other → other = given := by
            simp [hRecorded]
          rw [ih taken hRest]
          exact ⟨fun hAll => ⟨⟨hName, hHere⟩, hAll⟩, fun hAll => hAll.2⟩
      | fresh hName hFree =>
          have hNone : nameAt? taken first = none := by simp [nameAt?, hFree]
          have hHere : ∀ other, nameAt? taken first = some other → other = given := by
            simp [hNone]
          -- The new record stands for the first parameter, with which the rest agrees.
          have hAfter : ∀ shape name, (shape, name) ∈ rest →
              ((∀ other, nameAt? (taken ++ [(first, endpoint, given)]) shape = some other →
                  other = name) ↔
                ∀ other, nameAt? taken shape = some other → other = name) := by
            intro shape name hMem
            rw [nameAt?_append_singleton]
            by_cases hShape : first = shape
            · subst hShape
              simp [hNone, hFirst name hMem]
            · simp [hShape]
          rw [ih _ hRest]
          constructor
          · intro hAll
            refine ⟨⟨hName, hHere⟩, fun shape name hMem => ?_⟩
            rw [← hAfter shape name hMem]
            exact hAll shape name hMem
          · intro hAll shape name hMem
            rw [hAfter shape name hMem]
            exact hAll.2 shape name hMem

/-! ### Entries that are apart -/

/-- Two entries that can stand in one catalogue. -/
structure Apart (a b : Entry) : Prop where
  contract : a.contract.id ≠ b.contract.id
  route : (a.route.method, Route.shape a.route.path) ≠ (b.route.method, Route.shape b.route.path)
  alike : Route.NamedAlike a.route.path b.route.path

/-- All parameters in the path of an entry have a name. -/
def Entry.IsNamed (entry : Entry) : Prop :=
  ∀ i parameter, Route.parameterAt? entry.route.path i = some parameter → parameter.name ≠ ""

/-- The tables hold what entries have taken, and nothing else. -/
structure Taken.Holds (taken : Taken) (before : List Entry) : Prop where
  contracts : ∀ id, id ∈ taken.contracts ↔ ∃ entry ∈ before, entry.contract.id = id
  routes : ∀ key, (∃ endpoint, lookup? key taken.routes = some endpoint) ↔
    ∃ entry ∈ before, (entry.route.method, Route.shape entry.route.path) = key
  parameters : ∀ shape name, nameAt? taken.parameters shape = some name ↔
    ∃ entry ∈ before, (shape, name) ∈ namedShapes [] (Route.segments entry.route.path)

theorem Taken.holds_empty : Taken.empty.Holds [] :=
  ⟨by simp [Taken.empty], by simp [Taken.empty, lookup?_nil],
    by simp [Taken.empty, nameAt?, lookup?_nil]⟩

theorem checkEntry_fst (taken : Taken) (entry : Entry) :
    (checkEntry taken entry).1 =
      (if entry.contract.id ∈ taken.contracts then
        [Problem.repeatedContract entry.contract.id.display] else []) ++
      ((lookup? (entry.route.method, Route.shape entry.route.path) taken.routes).map
        (Problem.takenRoute entry.route.method entry.route.path)).toList ++
      (checkParameters entry.route.endpoint entry.route.path
        (namedShapes [] (Route.segments entry.route.path)) taken.parameters).1.toList := by
  simp only [checkEntry]
  cases lookup? (entry.route.method, Route.shape entry.route.path) taken.routes <;> rfl

theorem checkEntry_routes (taken : Taken) (entry : Entry) :
    (checkEntry taken entry).2.routes =
      match lookup? (entry.route.method, Route.shape entry.route.path) taken.routes with
      | some _ => taken.routes
      | none => taken.routes ++
        [((entry.route.method, Route.shape entry.route.path), entry.route.endpoint)] := by
  simp only [checkEntry]
  cases lookup? (entry.route.method, Route.shape entry.route.path) taken.routes <;> rfl

theorem checkEntry_contracts (taken : Taken) (entry : Entry) :
    (checkEntry taken entry).2.contracts = taken.contracts ++ [entry.contract.id] := rfl

theorem checkEntry_parameters (taken : Taken) (entry : Entry) :
    (checkEntry taken entry).2.parameters =
      (checkParameters entry.route.endpoint entry.route.path
        (namedShapes [] (Route.segments entry.route.path)) taken.parameters).2 := rfl

/-- An entry has no collisions exactly if its contract, its route and its parameters go through. -/
theorem checkEntry_fst_eq_nil_iff (taken : Taken) (entry : Entry) :
    (checkEntry taken entry).1 = [] ↔
      entry.contract.id ∉ taken.contracts ∧
        lookup? (entry.route.method, Route.shape entry.route.path) taken.routes = none ∧
        (checkParameters entry.route.endpoint entry.route.path
          (namedShapes [] (Route.segments entry.route.path)) taken.parameters).1 = none := by
  simp only [checkEntry]
  cases lookup? (entry.route.method, Route.shape entry.route.path) taken.routes with
  | none => simp [Option.toList_eq_nil_iff]
  | some other => simp

/-- With tables that hold what the entries before it have taken, an entry has no collisions exactly
if it is named and apart from each of them. -/
theorem Taken.Holds.checkEntry_fst_eq_nil_iff {taken : Taken} {before : List Entry}
    (hHolds : taken.Holds before) (entry : Entry) :
    (checkEntry taken entry).1 = [] ↔
      entry.IsNamed ∧ ∀ earlier ∈ before, Apart earlier entry := by
  have hContract : entry.contract.id ∉ taken.contracts ↔
      ∀ earlier ∈ before, earlier.contract.id ≠ entry.contract.id := by
    simp [hHolds.contracts]
  have hRoute : lookup? (entry.route.method, Route.shape entry.route.path) taken.routes = none ↔
      ∀ earlier ∈ before, (earlier.route.method, Route.shape earlier.route.path) ≠
        (entry.route.method, Route.shape entry.route.path) := by
    rw [Option.eq_none_iff_forall_ne_some, ← not_exists, hHolds.routes]
    simp only [not_exists, not_and, ne_eq]
  have hParameters : (checkParameters entry.route.endpoint entry.route.path
        (namedShapes [] (Route.segments entry.route.path)) taken.parameters).1 = none ↔
      entry.IsNamed ∧
        ∀ earlier ∈ before, Route.NamedAlike earlier.route.path entry.route.path := by
    rw [checkParameters_fst_eq_none_iff _ _ _ _
      ((namedAlike_iff _ _).mp (Route.namedAlike_self entry.route.path))]
    simp only [hHolds.parameters, namedAlike_iff]
    constructor
    · intro hAll
      refine ⟨fun i parameter hParameter => ?_, ?_⟩
      · exact (hAll _ _ ((mem_namedShapes _ _ _).mpr ⟨i, parameter, hParameter, rfl, rfl⟩)).1
      · intro earlier hEarlier shape name otherName hName hOther
        exact (hAll shape otherName hOther).2 name ⟨earlier, hEarlier, hName⟩
    · rintro ⟨hNamed, hAlike⟩ shape name hMem
      obtain ⟨i, parameter, hParameter, -, rfl⟩ := (mem_namedShapes _ _ _).mp hMem
      refine ⟨hNamed i parameter hParameter, ?_⟩
      rintro other ⟨earlier, hEarlier, hOther⟩
      exact hAlike earlier hEarlier shape other _ hOther hMem
  rw [Catalogue.checkEntry_fst_eq_nil_iff, hContract, hRoute, hParameters]
  constructor
  · rintro ⟨hContracts, hRoutes, hNamed, hAlike⟩
    exact ⟨hNamed, fun earlier hEarlier =>
      ⟨hContracts earlier hEarlier, hRoutes earlier hEarlier, hAlike earlier hEarlier⟩⟩
  · rintro ⟨hNamed, hApart⟩
    exact ⟨fun earlier hEarlier => (hApart earlier hEarlier).contract,
      fun earlier hEarlier => (hApart earlier hEarlier).route, hNamed,
      fun earlier hEarlier => (hApart earlier hEarlier).alike⟩

/-- One step of the walk: after an entry without collisions the tables hold what it has taken,
too. -/
theorem Taken.Holds.checkEntry_snd {taken : Taken} {before : List Entry}
    (hHolds : taken.Holds before) {entry : Entry} (hNone : (checkEntry taken entry).1 = []) :
    (checkEntry taken entry).2.Holds (before ++ [entry]) := by
  obtain ⟨-, hRoute, hParameters⟩ := (Catalogue.checkEntry_fst_eq_nil_iff taken entry).mp hNone
  have hAfter := nameAt?_of_checkParameters_eq_none (Prod.ext hParameters rfl)
  refine ⟨fun id => ?_, fun key => ?_, fun shape name => ?_⟩
  · simp only [checkEntry, List.mem_append, List.mem_singleton, hHolds.contracts]
    constructor
    · rintro (⟨earlier, hEarlier, hId⟩ | rfl)
      · exact ⟨earlier, Or.inl hEarlier, hId⟩
      · exact ⟨entry, Or.inr rfl, rfl⟩
    · rintro ⟨earlier, hEarlier | rfl, rfl⟩
      · exact Or.inl ⟨earlier, hEarlier, rfl⟩
      · exact Or.inr rfl
  · simp only [checkEntry, hRoute, List.mem_append, List.mem_singleton]
    rw [lookup?_append_singleton]
    have hBefore := hHolds.routes key
    by_cases hKey : (entry.route.method, Route.shape entry.route.path) = key
    · subst hKey
      simp only [hRoute, if_true, Option.none_or, Option.some.injEq, exists_eq', true_iff]
      exact ⟨entry, Or.inr rfl, rfl⟩
    · simp only [hKey, if_false, Option.or_none, hBefore]
      constructor
      · rintro ⟨earlier, hEarlier, hEq⟩
        exact ⟨earlier, Or.inl hEarlier, hEq⟩
      · rintro ⟨earlier, hEarlier | rfl, hEq⟩
        · exact ⟨earlier, hEarlier, hEq⟩
        · exact absurd hEq hKey
  · simp only [checkEntry, List.mem_append, List.mem_singleton]
    rw [hAfter shape name, hHolds.parameters]
    constructor
    · rintro (⟨earlier, hEarlier, hName⟩ | hName)
      · exact ⟨earlier, Or.inl hEarlier, hName⟩
      · exact ⟨entry, Or.inr rfl, hName⟩
    · rintro ⟨earlier, hEarlier | rfl, hName⟩
      · exact Or.inl ⟨earlier, hEarlier, hName⟩
      · exact Or.inr hName

/-- The walk over the entries that are left finds nothing exactly if these are named and apart from
each other and from the entries behind. -/
theorem Taken.Holds.collisionsAfter_eq_nil_iff {taken : Taken} {before : List Entry}
    (hHolds : taken.Holds before) (entries : List Entry) :
    collisionsAfter taken entries = [] ↔
      (∀ entry ∈ entries, entry.IsNamed ∧ ∀ earlier ∈ before, Apart earlier entry) ∧
        entries.Pairwise Apart := by
  -- With each step one more entry lies behind, so the induction is over all tables and what they
  -- hold.
  induction entries generalizing taken before with
  | nil => simp [collisionsAfter]
  | cons entry rest ih =>
      have hCons : collisionsAfter taken (entry :: rest) = [] ↔
          (checkEntry taken entry).1 = [] ∧
            collisionsAfter (checkEntry taken entry).2 rest = [] := by
        simp [collisionsAfter]
      rw [hCons, List.pairwise_cons]
      constructor
      · rintro ⟨hNone, hRest⟩
        obtain ⟨hNamed, hApart⟩ := (hHolds.checkEntry_fst_eq_nil_iff entry).mp hNone
        obtain ⟨hEach, hPairwise⟩ := (ih (hHolds.checkEntry_snd hNone)).mp hRest
        refine ⟨fun other hOther => ?_, fun other hOther => ?_, hPairwise⟩
        · rcases List.mem_cons.mp hOther with rfl | hOther
          · exact ⟨hNamed, hApart⟩
          · exact ⟨(hEach other hOther).1, fun earlier hEarlier =>
              (hEach other hOther).2 earlier (List.mem_append_left _ hEarlier)⟩
        · exact (hEach other hOther).2 entry (by simp)
      · rintro ⟨hEach, hFirst, hPairwise⟩
        have hNone := (hHolds.checkEntry_fst_eq_nil_iff entry).mpr (hEach entry (by simp))
        refine ⟨hNone, (ih (hHolds.checkEntry_snd hNone)).mpr ⟨fun other hOther => ?_, hPairwise⟩⟩
        have hThis := hEach other (List.mem_cons_of_mem _ hOther)
        refine ⟨hThis.1, fun earlier hEarlier => ?_⟩
        rcases List.mem_append.mp hEarlier with hBefore | hEntry
        · exact hThis.2 earlier hBefore
        · rw [List.mem_singleton.mp hEntry]
          exact hFirst other hOther

/-- Entries have no collisions exactly if all of them are named and any two of them are apart. -/
theorem collisions_eq_nil_iff (entries : List Entry) :
    collisions entries = [] ↔
      (∀ entry ∈ entries, entry.IsNamed) ∧ entries.Pairwise Apart := by
  rw [collisions, Taken.holds_empty.collisionsAfter_eq_nil_iff]
  simp

end Catalogue
end Switchboard
