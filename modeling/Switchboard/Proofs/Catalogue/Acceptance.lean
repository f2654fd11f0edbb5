import Switchboard.Catalogue.Compile
import Switchboard.Proofs.Catalogue.Collision
import Switchboard.Proofs.Catalogue.Validity
import Mathlib.Data.List.Forall2

/-!
# Declarations that compile

`IsCompilable` says when a list of declarations compiles below a prefix, without tables and without
an order in which declarations are looked at: each declaration is valid on its own, no two positions
share a contract or a route, all parameters are named, and parameters after prefixes of one shape
are named alike.  The compiler accepts exactly these lists.
-/

namespace Switchboard
namespace Catalogue

open Endpoint (Declaration)

/-! ### Compiling one by one -/

/-- Each declaration has its entry at its place. -/
def Compiles (routePrefix : String) (ds : List Declaration) (entries : List Entry) : Prop :=
  List.Forall₂ (fun d entry => entryOf routePrefix d = .ok entry) ds entries

/-- Compiling one by one reports nothing exactly if each declaration has its entry. -/
theorem compileEach_fst_eq_nil_iff (routePrefix : String) (ds : List Declaration) :
    (compileEach routePrefix ds).1 = [] ↔
      Compiles routePrefix ds (compileEach routePrefix ds).2 := by
  induction ds with
  | nil => exact ⟨fun _ => List.Forall₂.nil, fun _ => rfl⟩
  | cons d rest ih =>
      cases hEntry : entryOf routePrefix d with
      | ok entry =>
          simp only [compileEach, hEntry]
          rw [ih]
          exact ⟨List.Forall₂.cons hEntry, fun hAll => (List.forall₂_cons.mp hAll).2⟩
      | error problems =>
          have hNe : problems ≠ [] := ((entryOf_eq_error_iff routePrefix d problems).mp hEntry).2
          simp only [compileEach, hEntry, List.append_eq_nil_iff, List.map_eq_nil_iff, hNe,
            false_and, false_iff]
          intro hAll
          -- The first of the entries would be the entry of a declaration that is refused.
          cases hEntries : (compileEach routePrefix rest).2 with
          | nil =>
              rw [hEntries] at hAll
              cases hAll
          | cons first others =>
              rw [hEntries] at hAll
              have hFirst := (List.forall₂_cons.mp hAll).1
              rw [hEntry] at hFirst
              cases hFirst

/-- Entries that stand for the declarations one by one are what compiling one by one gives. -/
theorem Compiles.eq_compileEach {routePrefix : String} {ds : List Declaration}
    {entries : List Entry} (hAll : Compiles routePrefix ds entries) :
    compileEach routePrefix ds = ([], entries) := by
  induction hAll with
  | nil => rfl
  | cons hEntry _ ih => simp [compileEach, hEntry, ih]

/-- A list compiles exactly if each declaration has an entry and the entries have no collisions. -/
theorem compile_eq_ok_iff (routePrefix : String) (ds : List Declaration)
    (catalogue : Catalogue) :
    compile routePrefix ds = .ok catalogue ↔
      ∃ entries, Compiles routePrefix ds entries ∧ collisions entries = [] ∧
        catalogue = ofEntries entries := by
  have hDiagnose : diagnose routePrefix ds = (compileEach routePrefix ds).1 ++
      collisions (compileEach routePrefix ds).2 := rfl
  unfold compile
  split
  · rename_i hNil
    rw [hDiagnose, List.append_eq_nil_iff, compileEach_fst_eq_nil_iff] at hNil
    constructor
    · rintro ⟨⟩
      exact ⟨_, hNil.1, hNil.2, rfl⟩
    · rintro ⟨entries, hAll, -, rfl⟩
      rw [hAll.eq_compileEach]
  · rename_i hSome
    constructor
    · rintro ⟨⟩
    · rintro ⟨entries, hAll, hNone, -⟩
      exfalso
      apply hSome
      rw [hDiagnose, hAll.eq_compileEach, hNone]
      rfl

theorem Compiles.map_contractIdOf? {routePrefix : String} {ds : List Declaration}
    {entries : List Entry} (hAll : Compiles routePrefix ds entries) :
    ds.map contractIdOf? = entries.map fun entry => some entry.contract.id := by
  induction hAll with
  | nil => rfl
  | cons hEntry _ ih => rw [List.map_cons, List.map_cons, (of_entryOf_eq_ok hEntry).1, ih]

/-! ### The condition on the whole list -/

/-- A list of declarations that compiles below a prefix. -/
structure IsCompilable (routePrefix : String) (ds : List Declaration) : Prop where
  valid : ∀ d ∈ ds, IsValid d
  /-- No contract and no route is taken twice. -/
  apart : ∀ i j (hi : i < ds.length) (hj : j < ds.length), i ≠ j →
    contractIdOf? ds[i] ≠ contractIdOf? ds[j] ∧
      (ds[i].method, Route.shape (pathOf routePrefix ds[i])) ≠
        (ds[j].method, Route.shape (pathOf routePrefix ds[j]))
  named : ∀ d ∈ ds, ∀ i parameter,
    Route.parameterAt? (pathOf routePrefix d) i = some parameter → parameter.name ≠ ""
  alike : ∀ d ∈ ds, ∀ e ∈ ds, Route.NamedAlike (pathOf routePrefix d) (pathOf routePrefix e)

theorem Apart.symm {a b : Entry} (hApart : Apart a b) : Apart b a :=
  ⟨hApart.contract.symm, hApart.route.symm, hApart.alike.symm⟩

/-- Whether entries are apart can be told from their declarations. -/
theorem apart_iff_of_entryOf_eq_ok {routePrefix : String} {d e : Declaration} {a b : Entry}
    (hFirst : entryOf routePrefix d = .ok a) (hSecond : entryOf routePrefix e = .ok b) :
    Apart a b ↔
      (contractIdOf? d ≠ contractIdOf? e ∧
        (d.method, Route.shape (pathOf routePrefix d)) ≠
          (e.method, Route.shape (pathOf routePrefix e))) ∧
      Route.NamedAlike (pathOf routePrefix d) (pathOf routePrefix e) := by
  obtain ⟨hContract, hMethod, hPath⟩ := of_entryOf_eq_ok hFirst
  obtain ⟨hOtherContract, hOtherMethod, hOtherPath⟩ := of_entryOf_eq_ok hSecond
  rw [hContract, hOtherContract, ← hMethod, ← hOtherMethod, ← hPath, ← hOtherPath]
  constructor
  · intro hApart
    exact ⟨⟨fun hEq => hApart.contract (Option.some.inj hEq), hApart.route⟩, hApart.alike⟩
  · rintro ⟨⟨hId, hRoute⟩, hAlike⟩
    exact ⟨fun hEq => hId (by rw [hEq]), hRoute, hAlike⟩

theorem compiles_iff_getElem (routePrefix : String) (ds : List Declaration)
    (entries : List Entry) :
    Compiles routePrefix ds entries ↔
      ds.length = entries.length ∧ ∀ i (hi : i < ds.length) (hi' : i < entries.length),
        entryOf routePrefix ds[i] = .ok entries[i] :=
  List.forall₂_iff_get

theorem Compiles.exists_declaration {routePrefix : String} {ds : List Declaration}
    {entries : List Entry} (hAll : Compiles routePrefix ds entries) {entry : Entry}
    (hEntry : entry ∈ entries) : ∃ d ∈ ds, entryOf routePrefix d = .ok entry := by
  obtain ⟨hLength, hAt⟩ := (compiles_iff_getElem routePrefix ds entries).mp hAll
  obtain ⟨i, hi, rfl⟩ := List.getElem_of_mem hEntry
  exact ⟨ds[i], List.getElem_mem _, hAt i (by omega) hi⟩

/-- For entries that stand for the declarations, what the walk asks of the entries is what
`IsCompilable` asks of the declarations. -/
theorem Compiles.collisions_eq_nil_iff {routePrefix : String} {ds : List Declaration}
    {entries : List Entry} (hAll : Compiles routePrefix ds entries) :
    collisions entries = [] ↔ IsCompilable routePrefix ds := by
  obtain ⟨hLength, hAt⟩ := (compiles_iff_getElem routePrefix ds entries).mp hAll
  rw [Catalogue.collisions_eq_nil_iff, List.pairwise_iff_getElem]
  constructor
  · rintro ⟨hNamed, hPairwise⟩
    -- Both orders of two positions, from the one in which the walk meets them.
    have hApart : ∀ i j (hi : i < entries.length) (hj : j < entries.length), i ≠ j →
        Apart entries[i] entries[j] := by
      intro i j hi hj hNe
      rcases Nat.lt_or_gt_of_ne hNe with hLt | hGt
      · exact hPairwise i j hi hj hLt
      · exact (hPairwise j i hj hi hGt).symm
    refine ⟨?_, ?_, ?_, ?_⟩
    · intro d hd
      obtain ⟨i, hi, rfl⟩ := List.getElem_of_mem hd
      exact (exists_entryOf_eq_ok_iff routePrefix _).mp ⟨_, hAt i hi (by omega)⟩
    · intro i j hi hj hNe
      exact ((apart_iff_of_entryOf_eq_ok (hAt i hi (by omega)) (hAt j hj (by omega))).mp
        (hApart i j (by omega) (by omega) hNe)).1
    · intro d hd
      obtain ⟨i, hi, rfl⟩ := List.getElem_of_mem hd
      rw [← (of_entryOf_eq_ok (hAt i hi (by omega))).2.2]
      exact hNamed _ (List.getElem_mem _)
    · intro d hd e he
      obtain ⟨i, hi, rfl⟩ := List.getElem_of_mem hd
      obtain ⟨j, hj, rfl⟩ := List.getElem_of_mem he
      -- The walk compares no entry with itself, and a path always agrees with itself.
      by_cases hEq : i = j
      · subst hEq
        exact Route.namedAlike_self _
      · exact ((apart_iff_of_entryOf_eq_ok (hAt i hi (by omega)) (hAt j hj (by omega))).mp
          (hApart i j (by omega) (by omega) hEq)).2
  · intro hCompilable
    refine ⟨?_, ?_⟩
    · intro entry hEntry
      obtain ⟨i, hi, rfl⟩ := List.getElem_of_mem hEntry
      -- The path of the entry is the path that is derived from its declaration.
      unfold Entry.IsNamed
      rw [(of_entryOf_eq_ok (hAt i (by omega) hi)).2.2]
      exact hCompilable.named _ (List.getElem_mem _)
    · intro i j hi hj hLt
      rw [apart_iff_of_entryOf_eq_ok (hAt i (by omega) hi) (hAt j (by omega) hj)]
      exact ⟨hCompilable.apart i j (by omega) (by omega) (by omega),
        hCompilable.alike _ (List.getElem_mem _) _ (List.getElem_mem _)⟩

theorem exists_compiles {routePrefix : String} {ds : List Declaration}
    (hValid : ∀ d ∈ ds, IsValid d) : ∃ entries, Compiles routePrefix ds entries := by
  induction ds with
  | nil => exact ⟨[], List.Forall₂.nil⟩
  | cons d rest ih =>
      obtain ⟨entries, hRest⟩ := ih fun e he => hValid e (List.mem_cons_of_mem _ he)
      obtain ⟨entry, hEntry⟩ := (exists_entryOf_eq_ok_iff routePrefix d).mpr (hValid d (by simp))
      exact ⟨entry :: entries, List.Forall₂.cons hEntry hRest⟩

/-- The compiler accepts exactly the lists of declarations that are compilable: the walk with its
tables decides a condition on all pairs of declarations, in whatever order they stand. -/
theorem exists_compile_eq_ok_iff (routePrefix : String) (ds : List Declaration) :
    (∃ catalogue, compile routePrefix ds = .ok catalogue) ↔ IsCompilable routePrefix ds := by
  constructor
  · rintro ⟨catalogue, hCompile⟩
    obtain ⟨entries, hAll, hNone, -⟩ := (compile_eq_ok_iff routePrefix ds catalogue).mp hCompile
    exact hAll.collisions_eq_nil_iff.mp hNone
  · intro hCompilable
    obtain ⟨entries, hAll⟩ := exists_compiles hCompilable.valid
    exact ⟨ofEntries entries, (compile_eq_ok_iff routePrefix ds _).mpr
      ⟨entries, hAll, hAll.collisions_eq_nil_iff.mpr hCompilable, rfl⟩⟩

/-! ### A list that compiles -/

/-- A query for an order, by its number. -/
def findOrder : Declaration :=
  (((Declaration.bare "app::Orders" "Find" .get).withRoute "{id:int}").withQuery
    ⟨some "Find", false⟩).withHandler ⟨[⟨"find", "&Find"⟩, ⟨"orders", "Directory"⟩], some "Order"⟩

/-- A command to create a customer. -/
def createCustomer : Declaration :=
  ((Declaration.bare "app::Customers" "Create" .post).withCommand ⟨some "Create", true⟩).withHandler
    ⟨[⟨"customers", "Directory"⟩, ⟨"command", "Create"⟩], none⟩

/-- A command to rename an order, at the path of the query. -/
def renameOrder : Declaration :=
  (((Declaration.bare "app::Orders" "Rename" .put).withRoute "{id}").withCommand
    ⟨some "Rename", true⟩).withHandler ⟨[⟨"rename", "Rename"⟩, ⟨"orders", "Directory"⟩], none⟩

/-- Two controllers, of which the one declared first comes last in the catalogue. -/
def sampleDeclarations : List Declaration := [findOrder, createCustomer, renameOrder]

theorem compile_sampleDeclarations :
    compile "/api" sampleDeclarations =
      .ok (ofEntries (compileEach "/api" sampleDeclarations).2) := by
  decide +kernel

end Catalogue
end Switchboard
