import Mathlib.Data.List.Sort
import Switchboard.Catalogue.Compile
import Switchboard.Proofs.Catalogue.Collision
import Switchboard.Proofs.Catalogue.Validity

/-!
# What is reported of each declaration

`HasFault` says of each problem when a declaration by itself has it.  The report of a declaration is
the list of exactly its faults in the order of their ranks; names that are repeated have one rank,
and among them the one whose second occurrence comes first goes first.  A list of declarations that
does not compile is refused with the reports of the declarations one after another, and only after
those come the collisions (`reports_come_first`).  What collides with what is not said here.
-/

namespace Switchboard
namespace Catalogue

open Endpoint (Declaration Kind RequestType Signature Status)

/-! ### Exact and ordered lists of problems -/

/-- The rank of a problem: problems of a declaration alone in the order of the checks, and then those
that it has with others. -/
def Problem.rank : Problem → Nat
  | .ambiguousKind | .missingKind => 0
  | .missingController => 1
  | .failingSuccess _ => 2
  | .missingHandler => 3
  | .unresolvedResult _ => 4
  | .repeatedParam _ => 5
  | .ambiguousRequest _ => 6
  | .repeatedContract _ => 7
  | .takenRoute .. => 8
  | .renamedParameter .. | .unnamedParameter _ => 9

/-- A problem that a declaration has with others or with its place among them. -/
def Problem.IsCollision (problem : Problem) : Prop :=
  7 ≤ problem.rank

/-- Problems are exactly the faults, each once and in a strict order. -/
structure Reports (order : Problem → Problem → Prop) (fault : Problem → Prop)
    (problems : List Problem) : Prop where
  mem_iff : ∀ problem, problem ∈ problems ↔ fault problem
  in_order : problems.Pairwise order

/-- The faults of some of the ranks. -/
def Ranked (fault : Problem → Prop) (low high : Nat) (problem : Problem) : Prop :=
  fault problem ∧ low ≤ problem.rank ∧ problem.rank < high

section Reports

variable {order : Problem → Problem → Prop} {fault other : Problem → Prop}

theorem Reports.congr {problems : List Problem} (hSame : ∀ problem, fault problem ↔ other problem)
    (hReports : Reports order fault problems) : Reports order other problems :=
  ⟨fun problem => (hReports.mem_iff problem).trans (hSame problem), hReports.in_order⟩

theorem reports_nil (hNone : ∀ problem, ¬ fault problem) : Reports order fault [] :=
  ⟨fun problem => by simp [hNone problem], List.Pairwise.nil⟩

theorem reports_singleton {problem : Problem} (hOnly : ∀ p, fault p ↔ p = problem) :
    Reports order fault [problem] :=
  ⟨fun p => by rw [List.mem_singleton, hOnly p], List.pairwise_singleton _ _⟩

/-- A check that finds one problem at most reports what it finds. -/
theorem reports_toList {found : Option Problem} (hFound : ∀ p, fault p ↔ found = some p) :
    Reports order fault found.toList := by
  cases found with
  | none => exact reports_nil fun p hFault => nomatch (hFound p).mp hFault
  | some problem =>
      exact reports_singleton fun p => (hFound p).trans (by rw [Option.some.injEq, eq_comm])

/-- Faults of lower ranks are reported first. -/
theorem Reports.append (hRank : ∀ {a b : Problem}, a.rank < b.rank → order a b)
    {low middle high : Nat} {problems others : List Problem}
    (hFirst : Reports order (Ranked fault low middle) problems)
    (hSecond : Reports order (Ranked fault middle high) others)
    (hLow : low ≤ middle) (hHigh : middle ≤ high) :
    Reports order (Ranked fault low high) (problems ++ others) := by
  constructor
  · intro problem
    rw [List.mem_append, hFirst.mem_iff, hSecond.mem_iff]
    constructor
    · rintro (⟨hFault, hLower, hUpper⟩ | ⟨hFault, hLower, hUpper⟩)
      · exact ⟨hFault, hLower, by omega⟩
      · exact ⟨hFault, by omega, hUpper⟩
    · intro hRanked
      obtain ⟨hFault, hLower, hUpper⟩ := hRanked
      by_cases hSide : problem.rank < middle
      · exact Or.inl ⟨hFault, hLower, hSide⟩
      · exact Or.inr ⟨hFault, by omega, hUpper⟩
  · apply List.pairwise_append.mpr
    refine ⟨hFirst.in_order, hSecond.in_order, fun a ha b hb => hRank ?_⟩
    have hUpper := ((hFirst.mem_iff a).mp ha).2.2
    have hLower := ((hSecond.mem_iff b).mp hb).2.1
    omega

/-- Two reports of the same faults are one if no two problems precede each other. -/
theorem Reports.unique (hAsymm : ∀ a b, order a b → ¬ order b a) {problems others : List Problem}
    (hReports : Reports order fault problems) (hOthers : Reports order fault others) :
    problems = others := by
  have : Std.Antisymm order := ⟨fun a b hOrder hBack => absurd hBack (hAsymm a b hOrder)⟩
  have : Std.Irrefl order := ⟨fun a hOrder => hAsymm a a hOrder hOrder⟩
  apply hReports.in_order.eq_of_mem_iff hOthers.in_order
  intro problem
  rw [hReports.mem_iff, hOthers.mem_iff]

end Reports

/-! ### Names that occur twice -/

/-- The position at which a name occurs for the second time. -/
def IsSecondAt (names : List String) (name : String) (i : Nat) : Prop :=
  names[i]? = some name ∧ (names.take i).count name = 1

theorem IsSecondAt.unique {names : List String} {name : String} {i j : Nat}
    (hFirst : IsSecondAt names name i) (hSecond : IsSecondAt names name j) : i = j := by
  -- Up to the later of two such places the name would have been counted twice.
  have hNotLess : ∀ {i j : Nat}, IsSecondAt names name i → IsSecondAt names name j → ¬ i < j := by
    intro i j hi hj hLess
    have hTake : names.take (i + 1) = names.take i ++ [name] := by
      rw [List.take_add_one, hi.1]
      rfl
    have hPart : ((names.take j).take (i + 1)).count name ≤ (names.take j).count name :=
      (List.take_sublist _ _).count_le name
    rw [List.take_take, Nat.min_eq_left (by omega), hTake, List.count_append, hi.2, hj.2,
      List.count_singleton_self] at hPart
    omega
  have hLeft := hNotLess hFirst hSecond
  have hRight := hNotLess hSecond hFirst
  omega

theorem exists_isSecondAt_iff (names : List String) (name : String) :
    (∃ i, IsSecondAt names name i) ↔ 2 ≤ names.count name := by
  constructor
  · intro hSecond
    obtain ⟨i, hAt, hCount⟩ := hSecond
    have hTake : names.take (i + 1) = names.take i ++ [name] := by
      rw [List.take_add_one, hAt]
      rfl
    have hPart : (names.take (i + 1)).count name ≤ names.count name :=
      (List.take_sublist _ _).count_le name
    rwa [hTake, List.count_append, hCount, List.count_singleton_self] at hPart
  · intro hCount
    obtain ⟨before, rest, rfl, hBefore⟩ :=
      List.eq_append_cons_of_mem (List.count_pos_iff.mp (by omega : 0 < names.count name))
    rw [List.count_append, List.count_eq_zero_of_not_mem hBefore, List.count_cons_self] at hCount
    obtain ⟨between, after, rfl, hBetween⟩ :=
      List.eq_append_cons_of_mem (List.count_pos_iff.mp (by omega : 0 < rest.count name))
    -- The second occurrence stands behind the first one and what is between the two.
    refine ⟨(before ++ name :: between).length, ?_, ?_⟩
    · rw [← List.cons_append, ← List.append_assoc]
      simp
    · rw [← List.cons_append, ← List.append_assoc, List.take_left, List.count_append,
        List.count_eq_zero_of_not_mem hBefore, List.count_cons_self,
        List.count_eq_zero_of_not_mem hBetween]

theorem isSecondAt_length_iff (before rest : List String) (first name : String) :
    IsSecondAt (before ++ first :: rest) name before.length ↔
      first = name ∧ before.count name = 1 := by
  simp [IsSecondAt]

/-- The names that are reported behind other names are those that occur for the second time there. -/
theorem mem_repeatedFrom_iff (before names : List String) (name : String) :
    name ∈ repeatedFrom before.reverse names ↔
      ∃ i, before.length ≤ i ∧ IsSecondAt (before ++ names) name i := by
  induction names generalizing before with
  | nil =>
      simp only [repeatedFrom, List.not_mem_nil, List.append_nil, false_iff, not_exists, not_and]
      intro i hi hSecond
      have hAt := (List.getElem?_eq_some_iff.mp hSecond.1).1
      omega
  | cons first rest ih =>
      have hRest := ih (before ++ [first])
      rw [List.reverse_append, List.reverse_singleton, List.singleton_append, List.append_assoc,
        List.singleton_append, List.length_append, List.length_singleton] at hRest
      have hHere : (∃ i, before.length ≤ i ∧ IsSecondAt (before ++ first :: rest) name i) ↔
          first = name ∧ before.count name = 1 ∨
            ∃ i, before.length + 1 ≤ i ∧ IsSecondAt (before ++ first :: rest) name i := by
        rw [← isSecondAt_length_iff]
        constructor
        · intro hSome
          obtain ⟨i, hi, hSecond⟩ := hSome
          rcases Nat.eq_or_lt_of_le hi with rfl | hLater
          · exact Or.inl hSecond
          · exact Or.inr ⟨i, hLater, hSecond⟩
        · rintro (hSecond | ⟨i, hi, hSecond⟩)
          · exact ⟨before.length, le_refl _, hSecond⟩
          · exact ⟨i, by omega, hSecond⟩
      rw [hHere, ← hRest, repeatedFrom, List.count_reverse]
      split_ifs with hCount
      · rw [List.mem_cons]
        constructor
        · rintro (rfl | hLater)
          · exact Or.inl ⟨rfl, hCount⟩
          · exact Or.inr hLater
        · rintro (⟨rfl, -⟩ | hLater)
          · exact Or.inl rfl
          · exact Or.inr hLater
      · constructor
        · exact Or.inr
        · rintro (⟨rfl, hSecond⟩ | hLater)
          · exact absurd hSecond hCount
          · exact hLater

/-- They are reported in the order of their second occurrences. -/
theorem pairwise_repeatedFrom (before names : List String) :
    (repeatedFrom before.reverse names).Pairwise fun name other =>
      ∃ i j, IsSecondAt (before ++ names) name i ∧ IsSecondAt (before ++ names) other j ∧ i < j := by
  induction names generalizing before with
  | nil => exact List.Pairwise.nil
  | cons first rest ih =>
      have hRest := ih (before ++ [first])
      have hLater := mem_repeatedFrom_iff (before ++ [first]) rest
      rw [List.reverse_append, List.reverse_singleton, List.singleton_append] at hRest hLater
      rw [List.append_assoc, List.singleton_append] at hRest
      rw [repeatedFrom, List.count_reverse]
      split_ifs with hCount
      · apply List.pairwise_cons.mpr
        refine ⟨fun name hName => ?_, hRest⟩
        obtain ⟨i, hi, hSecond⟩ := (hLater name).mp hName
        rw [List.append_assoc, List.singleton_append] at hSecond
        rw [List.length_append, List.length_singleton] at hi
        exact ⟨before.length, i, (isSecondAt_length_iff before rest first first).mpr ⟨rfl, hCount⟩,
          hSecond, by omega⟩
      · exact hRest

/-! ### The faults of a declaration -/

/-- The names of the handler's parameters, trimmed. -/
def paramNames (d : Declaration) : List String :=
  match d.handler with
  | some signature => signature.params.map fun param => Text.trim param.name
  | none => []

/-- The request and the handler of a declaration are both settled. -/
def IsSettled (d : Declaration) (kind : Kind) (type : RequestType) (signature : Signature) : Prop :=
  d.request? = some (kind, type) ∧ d.handler = some signature

/-- When a declaration by itself has a problem.  The result and the parameters of the handler are
looked at only where the kind of the request is settled. -/
def HasFault (d : Declaration) : Problem → Prop
  | .ambiguousKind => d.command.isSome ∧ d.query.isSome
  | .missingKind => d.command = none ∧ d.query = none
  | .missingController =>
      (∀ controller, d.controller = some controller → Text.trim controller = "") ∧
        ∀ segment ∈ Text.pieces isNamespaceSeparator d.namespaceName, Text.trim segment = ""
  | .failingSuccess status => d.statuses.head? = some status ∧ status ≠ .ok ∧ status ≠ .noContent
  | .missingHandler => d.handler = none
  | .unresolvedResult none => ∃ type signature, IsSettled d .query type signature ∧
      ∀ result, ¬ HasResult signature result
  | .unresolvedResult (some result) => ∃ kind type signature, IsSettled d kind type signature ∧
      HasResult signature result ∧ isResolved result = false
  | .repeatedParam name => ∃ kind type signature, IsSettled d kind type signature ∧
      2 ≤ (paramNames d).count name
  | .ambiguousRequest params => ∃ kind type signature, IsSettled d kind type signature ∧
      params = (signature.params.filter (takesRequest (type.nameFor kind))).map (·.name) ∧
        2 ≤ params.length
  | .repeatedContract _ | .takenRoute .. | .renamedParameter .. | .unnamedParameter _ => False

/-- One problem of a declaration is reported before another. -/
inductive Precedes (names : List String) : Problem → Problem → Prop
  | of_rank {a b : Problem} (hRank : a.rank < b.rank) : Precedes names a b
  | of_second {name other : String} {i j : Nat} (hFirst : IsSecondAt names name i)
      (hSecond : IsSecondAt names other j) (hLess : i < j) :
      Precedes names (.repeatedParam name) (.repeatedParam other)

theorem Precedes.asymm {names : List String} {a b : Problem} (hPrecedes : Precedes names a b) :
    ¬ Precedes names b a := by
  intro hBack
  cases hPrecedes with
  | of_rank hRank =>
      cases hBack with
      | of_rank hOther => omega
      | of_second => exact absurd hRank (lt_irrefl _)
  | of_second hFirst hSecond hLess =>
      cases hBack with
      | of_rank hOther => exact absurd hOther (lt_irrefl _)
      | of_second hOtherFirst hOtherSecond hOtherLess =>
          have hLater := hSecond.unique hOtherFirst
          have hEarlier := hFirst.unique hOtherSecond
          omega

/-- The report of a declaration: all that is wrong with it alone, in order. -/
def IsReport (d : Declaration) (problems : List Problem) : Prop :=
  Reports (Precedes (paramNames d)) (HasFault d) problems

section Checks

variable {names : List String} (d : Declaration)

theorem reports_kindOf :
    Reports (Precedes names) (Ranked (HasFault d) 0 1) (kindOf d).problems := by
  unfold kindOf
  split
  · rename_i hCommand hQuery
    refine reports_nil fun p => ?_
    cases p <;> simp [Ranked, HasFault, Problem.rank, hCommand, hQuery]
  · rename_i hCommand hQuery
    refine reports_nil fun p => ?_
    cases p <;> simp [Ranked, HasFault, Problem.rank, hCommand, hQuery]
  · rename_i hCommand hQuery
    refine reports_singleton fun p => ?_
    cases p <;> simp [Ranked, HasFault, Problem.rank, hCommand, hQuery]
  · rename_i hCommand hQuery
    refine reports_singleton fun p => ?_
    cases p <;> simp [Ranked, HasFault, Problem.rank, hCommand, hQuery]

theorem hasFault_missingController_iff :
    HasFault d .missingController ↔ ¬ ∃ controller, controllerOf d = .ok controller := by
  rw [exists_controllerOf_eq_ok_iff]
  simp only [HasFault, not_or, not_exists, not_and, ne_eq, not_not]

theorem reports_controllerOf :
    Reports (Precedes names) (Ranked (HasFault d) 1 2) (controllerOf d).problems := by
  have hFault := hasFault_missingController_iff d
  have hOnly : controllerOf d = .error [.missingController] ∨
      ∃ controller, controllerOf d = .ok controller := by
    unfold controllerOf
    split
    · simp
    · split <;> simp
  rcases hOnly with hMissing | ⟨controller, hController⟩
  · rw [hMissing] at hFault ⊢
    refine reports_singleton fun p => ?_
    cases p <;> simp [Ranked, Problem.rank, hFault]
  · rw [hController] at hFault ⊢
    refine reports_nil fun p => ?_
    cases p <;> simp [Ranked, Problem.rank, hFault]

theorem reports_statusesOf :
    Reports (Precedes names) (Ranked (HasFault d) 2 3) (statusesOf d).problems := by
  simp only [statusesOf, producedStatuses_fst]
  cases hFirst : d.statuses.head? with
  | none =>
      refine reports_nil fun p => ?_
      cases p <;> simp [Ranked, HasFault, Problem.rank, hFirst]
  | some status =>
      have hSuccess : status.isSuccess = true ↔ ¬ (status ≠ .ok ∧ status ≠ .noContent) := by
        cases status <;> simp [Status.isSuccess]
      rw [Option.getD_some]
      split_ifs with hIs
      · refine reports_nil fun p hRanked => ?_
        cases p with
        | failingSuccess other =>
            obtain ⟨hHead, hOther⟩ := hRanked.1
            rw [hFirst] at hHead
            obtain rfl := Option.some.inj hHead
            exact hSuccess.mp hIs hOther
        | _ => simp [Ranked, HasFault, Problem.rank] at hRanked
      · refine reports_singleton fun p => ?_
        cases p with
        | failingSuccess other =>
            have hFault : status ≠ .ok ∧ status ≠ .noContent := not_not.mp (mt hSuccess.mpr hIs)
            simp only [Ranked, HasFault, hFirst, Option.some.injEq, Problem.failingSuccess.injEq]
            constructor
            · exact fun h => h.1.1.symm
            · rintro rfl
              exact ⟨⟨rfl, hFault⟩, by simp [Problem.rank]⟩
        | _ => simp [Ranked, HasFault, Problem.rank]

theorem reports_handlerOf :
    Reports (Precedes names) (Ranked (HasFault d) 3 4) (handlerOf d).problems := by
  unfold handlerOf
  cases hHandler : d.handler with
  | some signature =>
      refine reports_nil fun p => ?_
      cases p <;> simp [Ranked, HasFault, Problem.rank, hHandler]
  | none =>
      refine reports_singleton fun p => ?_
      cases p <;> simp [Ranked, HasFault, Problem.rank, hHandler]

end Checks

section Settled

variable {d : Declaration} {kind : Kind} {type : RequestType} {signature : Signature}

theorem IsSettled.unique {otherKind : Kind} {otherType : RequestType} {other : Signature}
    (hSettled : IsSettled d kind type signature) (hOther : IsSettled d otherKind otherType other) :
    otherKind = kind ∧ otherType = type ∧ other = signature := by
  obtain ⟨hKind, hType⟩ := Prod.mk.inj (Option.some.inj (hOther.1.symm.trans hSettled.1))
  exact ⟨hKind, hType, Option.some.inj (hOther.2.symm.trans hSettled.2)⟩

theorem IsSettled.paramNames_eq (hSettled : IsSettled d kind type signature) :
    paramNames d = signature.params.map fun param => Text.trim param.name := by
  simp [paramNames, hSettled.2]

/-- What the faults of a settled declaration are about is its own kind, type and signature. -/
theorem IsSettled.exists_iff (hSettled : IsSettled d kind type signature)
    {holds : Kind → RequestType → Signature → Prop} :
    (∃ k t s, IsSettled d k t s ∧ holds k t s) ↔ holds kind type signature := by
  constructor
  · intro hSome
    obtain ⟨k, t, s, hOther, hHolds⟩ := hSome
    obtain ⟨rfl, rfl, rfl⟩ := hSettled.unique hOther
    exact hHolds
  · exact fun hHolds => ⟨kind, type, signature, hSettled, hHolds⟩

theorem IsSettled.hasFault_noResult_iff (hSettled : IsSettled d kind type signature) :
    HasFault d (.unresolvedResult none) ↔ kind = .query ∧ resultTypeOf signature = none := by
  rw [Option.eq_none_iff_forall_ne_some]
  simp only [ne_eq, resultTypeOf_eq_some_iff]
  constructor
  · intro hFault
    obtain ⟨t, s, hOther, hNone⟩ := hFault
    obtain ⟨rfl, rfl, rfl⟩ := hSettled.unique hOther
    exact ⟨rfl, hNone⟩
  · intro hBoth
    obtain ⟨rfl, hNone⟩ := hBoth
    exact ⟨type, signature, hSettled, hNone⟩

theorem IsSettled.hasFault_unresolved_iff (hSettled : IsSettled d kind type signature)
    (result : String) : HasFault d (.unresolvedResult (some result)) ↔
      resultTypeOf signature = some result ∧ isResolved result = false := by
  rw [resultTypeOf_eq_some_iff]
  exact hSettled.exists_iff

theorem ranked_unresolvedResult_iff {fault : Problem → Prop} (problem : Problem) :
    Ranked fault 4 5 problem ↔
      ∃ result, problem = .unresolvedResult result ∧ fault (.unresolvedResult result) := by
  cases problem <;> simp [Ranked, Problem.rank]

theorem IsSettled.reports_capabilityOf {names : List String}
    (hSettled : IsSettled d kind type signature) :
    Reports (Precedes names) (Ranked (HasFault d) 4 5) (capabilityOf kind signature).problems := by
  have hNoResult := hSettled.hasFault_noResult_iff
  have hUnresolved := hSettled.hasFault_unresolved_iff
  -- Which of the two faults there can be is told by the result type, in each branch of the check.
  have hOnly : ∀ problem, Ranked (HasFault d) 4 5 problem ↔
      (problem = .unresolvedResult none ∧ kind = .query ∧ resultTypeOf signature = none) ∨
        ∃ result, problem = .unresolvedResult (some result) ∧
          resultTypeOf signature = some result ∧ isResolved result = false := by
    intro problem
    rw [ranked_unresolvedResult_iff, Option.exists, hNoResult]
    simp only [hUnresolved]
  refine Reports.congr (fun problem => (hOnly problem).symm) ?_
  unfold capabilityOf
  cases hResult : resultTypeOf signature with
  | some result =>
      dsimp only
      split_ifs with hResolved
      · exact reports_nil fun problem => by simp [hResolved]
      · exact reports_singleton fun problem => by simp [hResolved]
  | none =>
      cases kind with
      | command => exact reports_nil fun problem => by simp
      | query => exact reports_singleton fun problem => by simp

theorem problems_argumentsOf (requestType : String) (signature : Signature) :
    (argumentsOf requestType signature).problems = paramProblems requestType signature := by
  unfold argumentsOf
  split
  · rename_i hNil
    rw [hNil]
    rfl
  · rfl

theorem IsSettled.reports_repeated (hSettled : IsSettled d kind type signature) :
    Reports (Precedes (paramNames d)) (Ranked (HasFault d) 5 6)
      ((repeatedFrom [] (paramNames d)).map Problem.repeatedParam) := by
  have hFault : ∀ name, HasFault d (.repeatedParam name) ↔ 2 ≤ (paramNames d).count name :=
    fun name => hSettled.exists_iff
  constructor
  · intro problem
    have hRanked : Ranked (HasFault d) 5 6 problem ↔
        ∃ name, problem = .repeatedParam name ∧ HasFault d (.repeatedParam name) := by
      cases problem <;> simp [Ranked, Problem.rank]
    rw [hRanked, List.mem_map]
    simp only [hFault, ← exists_isSecondAt_iff]
    have hRepeated := mem_repeatedFrom_iff [] (paramNames d)
    simp only [List.reverse_nil, List.length_nil, Nat.zero_le, true_and, List.nil_append]
      at hRepeated
    constructor
    · intro hMem
      obtain ⟨name, hName, rfl⟩ := hMem
      exact ⟨name, rfl, (hRepeated name).mp hName⟩
    · intro hSecond
      obtain ⟨name, rfl, hName⟩ := hSecond
      exact ⟨name, (hRepeated name).mpr hName, rfl⟩
  · apply List.pairwise_map.mpr
    apply (pairwise_repeatedFrom [] (paramNames d)).imp
    intro name other hOrder
    obtain ⟨i, j, hFirst, hSecond, hLess⟩ := hOrder
    exact .of_second hFirst hSecond hLess

theorem IsSettled.reports_requests {names : List String}
    (hSettled : IsSettled d kind type signature) :
    let requests := (signature.params.filter (takesRequest (type.nameFor kind))).map (·.name)
    Reports (Precedes names) (Ranked (HasFault d) 6 7)
      (if requests.length > 1 then [Problem.ambiguousRequest requests] else []) := by
  intro requests
  have hFault : ∀ params, HasFault d (.ambiguousRequest params) ↔
      params = requests ∧ 2 ≤ params.length := fun params => hSettled.exists_iff
  have hRanked : ∀ problem, Ranked (HasFault d) 6 7 problem ↔
      problem = .ambiguousRequest requests ∧ 2 ≤ requests.length := by
    intro problem
    have hOnly : Ranked (HasFault d) 6 7 problem ↔
        ∃ params, problem = .ambiguousRequest params ∧ HasFault d (.ambiguousRequest params) := by
      cases problem <;> simp [Ranked, Problem.rank]
    rw [hOnly]
    simp only [hFault]
    constructor
    · intro hSome
      obtain ⟨params, rfl, rfl, hLength⟩ := hSome
      exact ⟨rfl, hLength⟩
    · exact fun hBoth => ⟨requests, hBoth.1, rfl, hBoth.2⟩
  refine Reports.congr (fun problem => (hRanked problem).symm) ?_
  split_ifs with hMany
  · exact reports_singleton fun problem => and_iff_left hMany
  · exact reports_nil fun problem hBoth => hMany hBoth.2

/-- The checks of the handler report what is wrong with its result and its parameters. -/
theorem IsSettled.reports_signature (hSettled : IsSettled d kind type signature) :
    Reports (Precedes (paramNames d)) (Ranked (HasFault d) 4 7)
      ((capabilityOf kind signature).problems ++
        (argumentsOf (type.nameFor kind) signature).problems) := by
  have hArguments := hSettled.reports_repeated.append .of_rank hSettled.reports_requests
    (by decide) (by decide)
  rw [hSettled.paramNames_eq] at hArguments ⊢
  rw [problems_argumentsOf]
  exact hSettled.reports_capabilityOf.append .of_rank hArguments (by decide) (by decide)

end Settled

/-- Behind the checks of kind, controller, statuses and handler stand those of the signature. -/
theorem exists_problemsOf_eq (d : Declaration) :
    ∃ problems, problemsOf d = (kindOf d).problems ++ (controllerOf d).problems ++
        (statusesOf d).problems ++ (handlerOf d).problems ++ problems ∧
      Reports (Precedes (paramNames d)) (Ranked (HasFault d) 4 7) problems := by
  refine ⟨_, rfl, ?_⟩
  split
  · rename_i kind type signature hKind hHandler
    exact IsSettled.reports_signature
      ⟨(kindOf_eq_ok_iff d _).mp hKind, (handlerOf_eq_ok_iff d _).mp hHandler⟩
  · rename_i hNot
    -- Without a kind or without a handler no fault of these ranks is one.
    have hUnsettled : ∀ kind type signature, ¬ IsSettled d kind type signature :=
      fun kind type signature hSettled => hNot kind type signature
        ((kindOf_eq_ok_iff d _).mpr hSettled.1) ((handlerOf_eq_ok_iff d _).mpr hSettled.2)
    refine reports_nil fun problem => ?_
    rcases problem with _ | _ | _ | (_ | result) | _ <;>
      simp [Ranked, HasFault, Problem.rank, hUnsettled]

/-- The problems of a declaration are its report. -/
theorem isReport_problemsOf (d : Declaration) : IsReport d (problemsOf d) := by
  obtain ⟨problems, hProblems, hSignature⟩ := exists_problemsOf_eq d
  have hAll := ((((reports_kindOf d).append .of_rank (reports_controllerOf d) (by decide)
    (by decide)).append .of_rank (reports_statusesOf d) (by decide) (by decide)).append .of_rank
      (reports_handlerOf d) (by decide) (by decide)).append .of_rank hSignature (by decide)
        (by decide)
  rw [← hProblems] at hAll
  refine hAll.congr fun problem => ⟨fun hRanked => hRanked.1, fun hFault => ⟨hFault, ?_⟩⟩
  cases problem <;> simp_all [HasFault, Problem.rank]

/-- A declaration has one report. -/
theorem isReport_iff (d : Declaration) (problems : List Problem) :
    IsReport d problems ↔ problems = problemsOf d := by
  constructor
  · exact fun hReport => Reports.unique (fun _ _ => Precedes.asymm) hReport (isReport_problemsOf d)
  · rintro rfl
    exact isReport_problemsOf d

/-! ### The diagnostics of a list -/

/-- The diagnostics with which a list is refused, of which there are none if it compiles. -/
def diagnosticsOf {α : Type} : Except (List Diagnostic) α → List Diagnostic
  | .ok _ => []
  | .error diagnostics => diagnostics

/-- Problems of several endpoints one after another, each under the name of its own. -/
def underNames (names : List String) (reports : List (List Problem)) : List Diagnostic :=
  (names.zipWith (fun name problems => problems.map (Diagnostic.mk name)) reports).flatten

theorem diagnosticsOf_compile (routePrefix : String) (ds : List Declaration) :
    diagnosticsOf (compile routePrefix ds) = diagnose routePrefix ds := by
  unfold compile
  split
  · rename_i hNil
    rw [hNil]
    rfl
  · rfl

/-- Compiling one by one reports the problems of each declaration under its name. -/
theorem compileEach_fst (routePrefix : String) (ds : List Declaration) :
    (compileEach routePrefix ds).1 =
      underNames (ds.map (·.qualifiedName)) (ds.map problemsOf) := by
  induction ds with
  | nil => rfl
  | cons d rest ih =>
      have hCons : underNames ((d :: rest).map (·.qualifiedName)) ((d :: rest).map problemsOf) =
          (problemsOf d).map (Diagnostic.mk d.qualifiedName) ++
            underNames (rest.map (·.qualifiedName)) (rest.map problemsOf) := rfl
      rw [hCons, ← ih]
      cases hEntry : entryOf routePrefix d with
      | ok entry =>
          have hNil := ((entryOf_eq_ok_iff routePrefix d entry).mp hEntry).1
          simp [compileEach, hEntry, hNil]
      | error problems =>
          obtain ⟨rfl, -⟩ := (entryOf_eq_error_iff routePrefix d problems).mp hEntry
          simp [compileEach, hEntry]

theorem rank_of_checkParameters_eq_some {endpoint path : String}
    {params : List (String × String)} {taken : List (String × String × String)} {problem : Problem}
    (hSome : (checkParameters endpoint path params taken).1 = some problem) :
    problem.rank = 9 := by
  induction params generalizing taken with
  | nil => cases hSome
  | cons param rest ih =>
      obtain ⟨shape, name⟩ := param
      obtain ⟨found, next, hStep, hCons⟩ := exists_checksTo endpoint path shape name taken
      rw [hCons] at hSome
      cases hStep with
      | unnamed hName =>
          obtain rfl := Option.some.inj hSome
          rfl
      | renamed hName hFound hOther =>
          obtain rfl := Option.some.inj hSome
          rfl
      | stands hName hRecorded => exact ih hSome
      | fresh hName hFree => exact ih hSome

theorem isCollision_of_mem_collisionsAfter {taken : Taken} {entries : List Entry}
    {diagnostic : Diagnostic} (hMem : diagnostic ∈ collisionsAfter taken entries) :
    diagnostic.problem.IsCollision := by
  induction entries generalizing taken with
  | nil => cases hMem
  | cons entry rest ih =>
      rcases List.mem_append.mp hMem with hHere | hRest
      · obtain ⟨problem, hProblem, rfl⟩ := List.mem_map.mp hHere
        show 7 ≤ problem.rank
        have hFound : problem ∈ (checkEntry taken entry).1 := hProblem
        rw [checkEntry_fst] at hFound
        rcases List.mem_append.mp hFound with hFirst | hParameter
        · rcases List.mem_append.mp hFirst with hContract | hRoute
          · split_ifs at hContract
            · rw [List.mem_singleton.mp hContract]
              exact le_refl 7
            · cases hContract
          · obtain ⟨other, -, rfl⟩ := Option.map_eq_some_iff.mp (Option.mem_toList.mp hRoute)
            exact Nat.le_succ 7
        · rw [rank_of_checkParameters_eq_some (Option.mem_toList.mp hParameter)]
          decide
      · exact ih hRest

/-- **The reports of the declarations come first.**  A list of declarations is refused with the
report of each declaration, in the order of the list, and then with collisions only.  A declaration
that is valid has nothing to report. -/
theorem reports_come_first (routePrefix : String) (ds : List Declaration) :
    ∃ reports collisions, List.Forall₂ IsReport ds reports ∧
      diagnosticsOf (compile routePrefix ds) =
        underNames (ds.map (·.qualifiedName)) reports ++ collisions ∧
      (∀ diagnostic ∈ collisions, diagnostic.problem.IsCollision) ∧
      ∀ d, IsReport d [] ↔ IsValid d := by
  refine ⟨ds.map problemsOf, collisions (compileEach routePrefix ds).2, ?_, ?_, ?_, fun d => ?_⟩
  · rw [List.forall₂_map_right_iff]
    exact List.forall₂_same.mpr fun d _ => isReport_problemsOf d
  · rw [diagnosticsOf_compile, ← compileEach_fst]
    rfl
  · exact fun diagnostic hMem => isCollision_of_mem_collisionsAfter hMem
  · rw [isReport_iff, eq_comm, problemsOf_eq_nil_iff]

/-- A query in no namespace with a failing status and no result, of whose four parameters two names
come twice and two take the request. -/
example : problemsOf (((((Declaration.bare "" "Find" .get).producing [.notFound]).withQuery
      ⟨none, false⟩).withHandler
        ⟨[⟨"a", "A"⟩, ⟨"b ", "Query"⟩, ⟨" b", "B"⟩, ⟨"a", "x::Query"⟩], some " () "⟩)) =
    [.missingController, .failingSuccess .notFound, .unresolvedResult none, .repeatedParam "b",
      .repeatedParam "a", .ambiguousRequest ["b ", "a"]] := by
  decide +kernel

end Catalogue
end Switchboard
