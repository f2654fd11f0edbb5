import Switchboard.Catalogue.Writing
import Switchboard.Proofs.Catalogue.Grouping
import Mathlib.Data.List.Sort

/-!
# Declarations that are left out or moved

The walk over entries compares each entry with those before it, but what it decides is a condition
on pairs.  So declarations that are left out of a list that compiles, or moved in it, leave one that
compiles, and none of the entries changes, since an entry is compiled from its own declaration
alone.  If those of one controller keep their order, each controller is left with its old entries
but for those of the declarations that are gone (`Catalogue.keeping`).  Of lists that do not compile
nothing is said beyond that: moved declarations may collide in another order.
-/

namespace Switchboard
namespace Catalogue

open Endpoint (Declaration)

/-! ### Orders of lists without repetitions -/

section Order

variable {α : Type} {xs ys : List α}

/-- Of two members of a list without repetitions only one comes first. -/
theorem not_sublist_pair_swap (hNodup : ys.Nodup) {a b : α} (hFirst : [a, b].Sublist ys)
    (hSecond : [b, a].Sublist ys) : False := by
  induction hNodup with
  | nil => cases hFirst
  | @cons c rest hFresh _ ih =>
      have hNotMem : c ∉ rest := fun hMem => hFresh c hMem rfl
      cases hFirst with
      | cons _ hFirst =>
          cases hSecond with
          | cons _ hSecond => exact ih hFirst hSecond
          | cons_cons _ hSecond => exact hNotMem (hFirst.subset (by simp))
      | cons_cons _ hFirst =>
          cases hSecond with
          | cons _ hSecond => exact hNotMem (hSecond.subset (by simp))
          | cons_cons _ hSecond => exact hNotMem (hFirst.subset (by simp))

/-- Members of a list without repetitions that stand as they do in it are the list with the others
left out. -/
theorem eq_filter_of_pairwise_sublist [DecidableEq α] (hNodup : ys.Nodup) (hSubset : xs ⊆ ys)
    (hOrder : xs.Pairwise fun a b => [a, b].Sublist ys) :
    xs = ys.filter fun a => decide (a ∈ xs) := by
  have hAntisymm : Std.Antisymm fun a b : α => [a, b].Sublist ys :=
    ⟨fun a b hFirst hSecond => (not_sublist_pair_swap hNodup hFirst hSecond).elim⟩
  have hIrrefl : Std.Irrefl fun a b : α => [a, b].Sublist ys :=
    ⟨fun a hTwice => not_sublist_pair_swap hNodup hTwice hTwice⟩
  have hOwnOrder : ys.Pairwise fun a b => [a, b].Sublist ys :=
    List.pairwise_iff_forall_sublist.mpr id
  refine hOrder.eq_of_mem_iff (hOwnOrder.sublist List.filter_sublist) fun a => ?_
  simp only [List.mem_filter, decide_eq_true_eq]
  exact ⟨fun hMem => ⟨hSubset hMem, hMem⟩, fun h => h.2⟩

end Order

/-! ### Entries of some of the declarations -/

variable {routePrefix : String} {ds es : List Declaration} {entries others : List Entry}

theorem controllerOf_of_entryOf_eq_ok {d : Declaration} {entry : Entry}
    (hEntry : entryOf routePrefix d = .ok entry) :
    controllerOf d = .ok entry.route.controller := by
  obtain ⟨-, parts, hParts, rfl⟩ := (entryOf_eq_ok_iff routePrefix d entry).mp hEntry
  exact (of_partsOf?_eq_some hParts).2

/-- Declarations have one list of entries at most. -/
theorem Compiles.unique (hAll : Compiles routePrefix ds entries)
    (hOther : Compiles routePrefix ds others) : entries = others := by
  have hSame := hAll.eq_compileEach.symm.trans hOther.eq_compileEach
  exact (Prod.mk.inj hSame).2

theorem Compiles.exists_of_mem (hAll : Compiles routePrefix ds entries) {d : Declaration}
    (hMem : d ∈ ds) : ∃ entry ∈ entries, entryOf routePrefix d = .ok entry := by
  induction hAll with
  | nil => cases hMem
  | @cons first entry rest left hEntry _ ih =>
      rcases List.mem_cons.mp hMem with rfl | hRest
      · exact ⟨entry, by simp, hEntry⟩
      · obtain ⟨other, hOther, hOk⟩ := ih hRest
        exact ⟨other, List.mem_cons_of_mem _ hOther, hOk⟩

/-- Leaving out declarations leaves out their entries. -/
theorem Compiles.filter (hAll : Compiles routePrefix ds entries) {p : Declaration → Bool}
    {q : Entry → Bool}
    (hAgree : ∀ d ∈ ds, ∀ entry, entryOf routePrefix d = .ok entry → p d = q entry) :
    Compiles routePrefix (ds.filter p) (entries.filter q) := by
  induction hAll with
  | nil => exact List.Forall₂.nil
  | @cons d entry rest left hEntry _ ih =>
      have hRest := ih fun other hOther => hAgree other (List.mem_cons_of_mem _ hOther)
      have hFirst := hAgree d (by simp) entry hEntry
      cases hKept : p d with
      | true =>
          rw [List.filter_cons_of_pos hKept, List.filter_cons_of_pos (hFirst ▸ hKept)]
          exact List.Forall₂.cons hEntry hRest
      | false =>
          rw [List.filter_cons_of_neg (by simp [hKept]),
            List.filter_cons_of_neg (by simp [← hFirst, hKept])]
          exact hRest

theorem Compiles.eq_filterMap (hAll : Compiles routePrefix ds entries) :
    entries = ds.filterMap fun d => (entryOf routePrefix d).toOption := by
  induction hAll with
  | nil => rfl
  | cons hEntry _ ih =>
      rw [List.filterMap_cons, hEntry, ← ih]
      rfl

/-- The entries of a rearrangement are a rearrangement of the entries. -/
theorem Compiles.exists_subperm (hAll : Compiles routePrefix ds entries) (hSub : es.Subperm ds) :
    ∃ others, Compiles routePrefix es others ∧ others.Subperm entries := by
  have hValid : ∀ d ∈ es, IsValid d := by
    intro d hd
    obtain ⟨entry, -, hEntry⟩ := hAll.exists_of_mem (hSub.subset hd)
    exact (exists_entryOf_eq_ok_iff routePrefix d).mp ⟨entry, hEntry⟩
  obtain ⟨others, hOthers⟩ : ∃ others, Compiles routePrefix es others := exists_compiles hValid
  obtain ⟨kept, hPerm, hSublist⟩ := hSub
  refine ⟨others, hOthers, ?_⟩
  rw [hAll.eq_filterMap, hOthers.eq_filterMap]
  exact ⟨_, hPerm.filterMap _, hSublist.filterMap _⟩

/-- A list that is left of one that compiles, in whatever order, compiles to entries that are left
of its entries. -/
theorem exists_compile_of_subperm (hAll : Compiles routePrefix ds entries)
    (hNone : collisions entries = []) (hSub : es.Subperm ds) :
    ∃ others, Compiles routePrefix es others ∧ others.Subperm entries ∧
      compile routePrefix es = .ok (ofEntries others) := by
  obtain ⟨others, hOthers, hBelow⟩ := hAll.exists_subperm hSub
  obtain ⟨hNamed, hApart⟩ := (collisions_eq_nil_iff entries).mp hNone
  refine ⟨others, hOthers, hBelow, (compile_eq_ok_iff routePrefix es _).mpr
    ⟨others, hOthers, (collisions_eq_nil_iff others).mpr ⟨?_, ?_⟩, rfl⟩⟩
  · exact fun entry hEntry => hNamed entry (hBelow.subset hEntry)
  · -- Entries are apart in either order, so it does not matter which of two comes first.
    obtain ⟨kept, hPerm, hSublist⟩ := hBelow
    exact (hPerm.pairwise_iff Apart.symm).mp (hApart.sublist hSublist)

/-! ### The catalogue of the declarations that are left -/

/-- A list keeps the order of another one within each controller: of two declarations of one
controller the one that comes first in it comes first in the other, too. -/
def KeepsOrder (es ds : List Declaration) : Prop :=
  es.Pairwise fun a b => controllerOf a = controllerOf b → [a, b].Sublist ds

/-- Whether an entry has the contract of one of the declarations. -/
def Entry.isOf (ds : List Declaration) (entry : Entry) : Bool :=
  ds.any fun d => decide (contractIdOf? d = some entry.contract.id)

/-- A controller with the entries of the declarations only. -/
def Controller.keeping (ds : List Declaration) (controller : Controller) : Controller :=
  { controller with entries := controller.entries.filter (Entry.isOf ds) }

/-- Controllers with the entries of the declarations only.  A controller of which nothing is left is
left out. -/
def keepingEach (ds : List Declaration) (controllers : List Controller) : List Controller :=
  (controllers.map (Controller.keeping ds)).filter (!·.entries.isEmpty)

/-- A catalogue with the entries of the declarations only. -/
def keeping (ds : List Declaration) (catalogue : Catalogue) : Catalogue :=
  ⟨keepingEach ds catalogue.controllers⟩

theorem mem_keepingEach_iff (controllers : List Controller) (controller : Controller) :
    controller ∈ keepingEach ds controllers ↔
      (∃ old ∈ controllers, old.keeping ds = controller) ∧ controller.entries ≠ [] := by
  simp [keepingEach]

theorem IsGrouped.keepingEach {controllers : List Controller} (hGrouped : IsGrouped controllers)
    (ds : List Declaration) : IsGrouped (keepingEach ds controllers) := by
  refine ⟨?_, ?_, ?_, ?_⟩
  · have hIncreasing : (controllers.map (Controller.keeping ds)).Pairwise
        fun a b => a.name < b.name := by
      rw [List.pairwise_map]
      exact hGrouped.increasing
    exact hIncreasing.sublist List.filter_sublist
  · exact fun controller hMem => ((mem_keepingEach_iff _ _).mp hMem).2
  · intro controller hMem
    obtain ⟨⟨old, hOld, rfl⟩, -⟩ := (mem_keepingEach_iff _ _).mp hMem
    exact hGrouped.route old hOld
  · intro controller hMem entry hEntry
    obtain ⟨⟨old, hOld, rfl⟩, -⟩ := (mem_keepingEach_iff _ _).mp hMem
    exact hGrouped.own old hOld entry (List.mem_filter.mp hEntry).1

theorem flatMap_keepingEach (ds : List Declaration) (controllers : List Controller) :
    (keepingEach ds controllers).flatMap (·.entries) =
      (controllers.flatMap (·.entries)).filter (Entry.isOf ds) := by
  induction controllers with
  | nil => rfl
  | cons first rest ih =>
      -- A controller that is left out would have added nothing.
      have hCons : (keepingEach ds (first :: rest)).flatMap (·.entries) =
          first.entries.filter (Entry.isOf ds) ++
            (keepingEach ds rest).flatMap (·.entries) := by
        cases hLeft : first.entries.filter (Entry.isOf ds) with
        | nil => simp [keepingEach, Controller.keeping, hLeft]
        | cons entry more => simp [keepingEach, Controller.keeping, hLeft]
      rw [hCons, ih, List.flatMap_cons, List.filter_append]

/-- Grouping keeps the order of the entries of each controller. -/
theorem isGrouped_ofEntries (entries : List Entry) :
    IsGrouped (ofEntries entries).controllers ∧
      ∀ name, (ofEntries entries).entries.filter
          (fun entry => decide (entry.route.controller = name)) =
        entries.filter fun entry => decide (entry.route.controller = name) :=
  isGrouped_foldl entries isGrouped_nil

/-- Controllers are determined by their entries and the order of these within each controller. -/
theorem IsGrouped.eq_of_filter_eq {controllers others : List Controller}
    (hGrouped : IsGrouped controllers) (hOther : IsGrouped others)
    (hFilter : ∀ name, (controllers.flatMap (·.entries)).filter
        (fun entry => decide (entry.route.controller = name)) =
      (others.flatMap (·.entries)).filter
        (fun entry => decide (entry.route.controller = name))) :
    controllers = others := by
  have hSubset : ∀ {cs cs' : List Controller}, IsGrouped cs → IsGrouped cs' →
      (∀ name, (cs.flatMap (·.entries)).filter
          (fun entry => decide (entry.route.controller = name)) =
        (cs'.flatMap (·.entries)).filter
          (fun entry => decide (entry.route.controller = name))) →
      ∀ controller ∈ cs, controller ∈ cs' := by
    intro cs cs' hcs hcs' hSame controller hMem
    -- One of its entries stands in the other list, in a controller of the same name.
    obtain ⟨entry, hEntry⟩ := List.exists_mem_of_ne_nil _ (hcs.nonempty controller hMem)
    have hFound : entry ∈ cs'.flatMap (·.entries) := by
      have hAt : entry ∈ (cs.flatMap (·.entries)).filter
          (fun entry => decide (entry.route.controller = controller.name)) := by
        rwa [← hcs.entries_eq_filter hMem]
      rw [hSame] at hAt
      exact (List.mem_filter.mp hAt).1
    obtain ⟨other, hOther, hIn⟩ := List.mem_flatMap.mp hFound
    have hName : other.name = controller.name :=
      (hcs'.own other hOther entry hIn).symm.trans (hcs.own controller hMem entry hEntry)
    have hEntries : other.entries = controller.entries := by
      rw [hcs'.entries_eq_filter hOther, hcs.entries_eq_filter hMem, hSame, hName]
    have hRoute : other.route = controller.route := by
      rw [hcs'.route other hOther, hcs.route controller hMem, hName]
    obtain ⟨name, route, entries⟩ := controller
    obtain ⟨otherName, otherRoute, otherEntries⟩ := other
    obtain rfl : otherName = name := hName
    obtain rfl : otherRoute = route := hRoute
    obtain rfl : otherEntries = entries := hEntries
    exact hOther
  have hAntisymm : Std.Antisymm fun a b : Controller => a.name < b.name :=
    ⟨fun a b hLess hMore => (lt_asymm hLess hMore).elim⟩
  have hIrrefl : Std.Irrefl fun a b : Controller => a.name < b.name :=
    ⟨fun a hLess => lt_irrefl _ hLess⟩
  exact hGrouped.increasing.eq_of_mem_iff hOther.increasing fun controller =>
    ⟨hSubset hGrouped hOther hFilter controller,
      hSubset hOther hGrouped (fun name => (hFilter name).symm) controller⟩

theorem Compiles.nodup_contractIdOf? (hAll : Compiles routePrefix ds entries)
    (hApart : entries.Pairwise Apart) : (ds.map contractIdOf?).Nodup := by
  rw [hAll.map_contractIdOf?, List.nodup_iff_pairwise_ne, List.pairwise_map]
  exact hApart.imp fun hEntries hSame => hEntries.contract (Option.some.inj hSame)

/-- A declaration is left exactly if its contract is that of a declaration that is left. -/
theorem decide_mem_eq_isOf (hNodup : (ds.map contractIdOf?).Nodup) (hSubset : es ⊆ ds)
    {d : Declaration} (hMem : d ∈ ds) {entry : Entry} (hEntry : entryOf routePrefix d = .ok entry) :
    decide (d ∈ es) = entry.isOf es := by
  have hContract := (of_entryOf_eq_ok hEntry).1
  rw [Bool.eq_iff_iff, decide_eq_true_eq, Entry.isOf, List.any_eq_true]
  constructor
  · exact fun hLeft => ⟨d, hLeft, decide_eq_true hContract⟩
  · rintro ⟨other, hOther, hSame⟩
    have hEq : contractIdOf? other = contractIdOf? d :=
      (of_decide_eq_true hSame).trans hContract.symm
    rwa [← List.inj_on_of_nodup_map hNodup (hSubset hOther) hMem hEq]

/-- The declarations of one controller that are left stand as they stood, without the others. -/
theorem KeepsOrder.filter_eq (hOrder : KeepsOrder es ds) (hNodup : ds.Nodup) (hSubset : es ⊆ ds)
    (name : String) :
    es.filter (fun d => decide (controllerOf d = .ok name)) =
      (ds.filter fun d => decide (d ∈ es)).filter
        fun d => decide (controllerOf d = .ok name) := by
  have hOwn : (es.filter fun d => decide (controllerOf d = .ok name)).Pairwise fun a b =>
      [a, b].Sublist (ds.filter fun d => decide (controllerOf d = .ok name)) := by
    refine (List.Pairwise.sublist List.filter_sublist hOrder).imp_of_mem fun {a b} ha hb hPair => ?_
    have hFirst := (List.mem_filter.mp ha).2
    have hSecond := (List.mem_filter.mp hb).2
    have hBoth := hPair ((of_decide_eq_true hFirst).trans (of_decide_eq_true hSecond).symm)
    have hKept := hBoth.filter fun d => decide (controllerOf d = .ok name)
    have hAll : [a, b].filter (fun d => decide (controllerOf d = .ok name)) = [a, b] :=
      List.filter_eq_self.mpr (by simp [of_decide_eq_true hFirst, of_decide_eq_true hSecond])
    rwa [hAll] at hKept
  have hWithin : es.filter (fun d => decide (controllerOf d = .ok name)) ⊆
      ds.filter fun d => decide (controllerOf d = .ok name) := fun d hd =>
    List.mem_filter.mpr ⟨hSubset (List.mem_filter.mp hd).1, (List.mem_filter.mp hd).2⟩
  refine (eq_filter_of_pairwise_sublist (hNodup.filter _) hWithin hOwn).trans ?_
  rw [List.filter_filter, List.filter_filter]
  refine List.filter_congr fun d _ => ?_
  by_cases hName : controllerOf d = .ok name
  · simp [hName]
  · simp [hName]

/-- What is left of a list that compiles has the entries that are left, controller by controller. -/
theorem Compiles.filter_eq (hAll : Compiles routePrefix ds entries)
    (hOthers : Compiles routePrefix es others) (hApart : entries.Pairwise Apart)
    (hSubset : es ⊆ ds) (hOrder : KeepsOrder es ds) (name : String) :
    others.filter (fun entry => decide (entry.route.controller = name)) =
      (entries.filter (Entry.isOf es)).filter
        fun entry => decide (entry.route.controller = name) := by
  have hContracts := hAll.nodup_contractIdOf? hApart
  have hName : ∀ d entry, entryOf routePrefix d = .ok entry →
      decide (controllerOf d = .ok name) = decide (entry.route.controller = name) := by
    intro d entry hEntry
    simp [controllerOf_of_entryOf_eq_ok hEntry]
  have hLeft := hOthers.filter fun d _ => hName d
  have hKept := (hAll.filter fun d hd entry =>
    decide_mem_eq_isOf hContracts hSubset hd).filter fun d _ => hName d
  rw [← hOrder.filter_eq hContracts.of_map hSubset] at hKept
  exact hLeft.unique hKept

/-- The catalogue of what is left of a list is the catalogue of the list without the entries of the
others. -/
theorem Compiles.ofEntries_eq_keeping (hAll : Compiles routePrefix ds entries)
    (hOthers : Compiles routePrefix es others) (hApart : entries.Pairwise Apart)
    (hSubset : es ⊆ ds) (hOrder : KeepsOrder es ds) :
    ofEntries others = keeping es (ofEntries entries) := by
  obtain ⟨hGrouped, hFilter⟩ := isGrouped_ofEntries entries
  obtain ⟨hOtherGrouped, hOtherFilter⟩ := isGrouped_ofEntries others
  refine congrArg Catalogue.mk
    (hOtherGrouped.eq_of_filter_eq (hGrouped.keepingEach es) fun name => ?_)
  calc (ofEntries others).entries.filter (fun entry => decide (entry.route.controller = name))
      = others.filter fun entry => decide (entry.route.controller = name) := hOtherFilter name
    _ = (entries.filter (Entry.isOf es)).filter
          fun entry => decide (entry.route.controller = name) :=
        hAll.filter_eq hOthers hApart hSubset hOrder name
    _ = ((ofEntries entries).entries.filter
          fun entry => decide (entry.route.controller = name)).filter (Entry.isOf es) := by
        rw [hFilter, List.filter_comm]
    _ = ((keepingEach es (ofEntries entries).controllers).flatMap (·.entries)).filter
          fun entry => decide (entry.route.controller = name) := by
        rw [flatMap_keepingEach, List.filter_comm]
        rfl

/-! ### Rearranged declarations -/

/-- A list keeps its own order. -/
theorem keepsOrder_self (ds : List Declaration) : KeepsOrder ds ds :=
  List.pairwise_iff_forall_sublist.mpr fun hPair _ => hPair

theorem isOf_congr (hSame : ∀ d, d ∈ es ↔ d ∈ ds) : Entry.isOf es = Entry.isOf ds := by
  funext entry
  rw [Bool.eq_iff_iff, Entry.isOf, Entry.isOf, List.any_eq_true, List.any_eq_true]
  simp only [hSame]

theorem keeping_congr (hSame : ∀ d, d ∈ es ↔ d ∈ ds) (catalogue : Catalogue) :
    catalogue.keeping es = catalogue.keeping ds := by
  have hEach : Controller.keeping es = Controller.keeping ds := by
    funext controller
    rw [Controller.keeping, Controller.keeping, isOf_congr hSame]
  rw [keeping, keeping, keepingEach, keepingEach, hEach]

/-- Where any two entries are apart, each is found under its contract. -/
theorem find?_of_mem {catalogue : Catalogue} (hApart : catalogue.entries.Pairwise Apart)
    {entry : Entry} (hMem : entry ∈ catalogue.entries) :
    catalogue.find? entry.contract.id = some entry := by
  obtain ⟨before, after, hEntries⟩ := List.append_of_mem hMem
  rw [hEntries] at hApart
  obtain ⟨-, -, hBefore⟩ := List.pairwise_append.mp hApart
  have hNone : before.find? (·.contract.id == entry.contract.id) = none :=
    List.find?_eq_none.mpr fun other hOther => by
      simpa using (hBefore other hOther entry (by simp)).contract
  simp [find?, hEntries, hNone]

/-- A declaration has one entry in two catalogues, found under its contract: the one to which it is
compiled alone. -/
def SharesEntry (routePrefix : String) (d : Declaration) (catalogue other : Catalogue) : Prop :=
  ∃ entry, entryOf routePrefix d = .ok entry ∧
    catalogue.find? entry.contract.id = some entry ∧ other.find? entry.contract.id = some entry

/-- Lists of the same declarations compile together, and whatever is left of a list that compiles,
in whatever order, compiles as well.  Each declaration that is left has the entry that it had.  If
the declarations of each controller keep their order, the catalogue is the old one without the
entries of the declarations that are gone; so orders that agree within each controller are written
alike. -/
theorem rearranged_declarations_compile (routePrefix : String) (ds : List Declaration) :
    (∀ es, es.Perm ds → ((∃ catalogue, compile routePrefix es = .ok catalogue) ↔
        ∃ catalogue, compile routePrefix ds = .ok catalogue)) ∧
      ∀ catalogue, compile routePrefix ds = .ok catalogue → ∀ es, es.Subperm ds →
        ∃ other, compile routePrefix es = .ok other ∧
          (∀ d ∈ es, SharesEntry routePrefix d catalogue other) ∧
          (KeepsOrder es ds → other = catalogue.keeping es) ∧
          (es.Perm ds → KeepsOrder es ds →
            ∀ pretty, other.render pretty = catalogue.render pretty) := by
  have hSub : ∀ ds es : List Declaration, es.Subperm ds →
      (∃ catalogue, compile routePrefix ds = .ok catalogue) →
        ∃ catalogue, compile routePrefix es = .ok catalogue := by
    rintro ds es hBelow ⟨catalogue, hCompile⟩
    obtain ⟨entries, hAll, hNone, -⟩ := (compile_eq_ok_iff routePrefix ds catalogue).mp hCompile
    obtain ⟨others, -, -, hOther⟩ := exists_compile_of_subperm hAll hNone hBelow
    exact ⟨_, hOther⟩
  refine ⟨fun es hPerm => ⟨hSub es ds hPerm.symm.subperm, hSub ds es hPerm.subperm⟩, ?_⟩
  intro catalogue hCompile es hBelow
  obtain ⟨entries, hAll, hNone, rfl⟩ := (compile_eq_ok_iff routePrefix ds catalogue).mp hCompile
  obtain ⟨others, hOthers, hWithin, hOther⟩ := exists_compile_of_subperm hAll hNone hBelow
  have hApart := ((collisions_eq_nil_iff entries).mp hNone).2
  have hKeeping := hAll.ofEntries_eq_keeping hOthers hApart hBelow.subset
  have hOwn := hAll.ofEntries_eq_keeping hAll hApart (List.Subset.refl ds) (keepsOrder_self ds)
  refine ⟨_, hOther, ?_, hKeeping, ?_⟩
  · intro d hd
    obtain ⟨entry, hEntry, hOk⟩ := hOthers.exists_of_mem hd
    obtain ⟨-, -, -, -, hOrdered⟩ := exists_of_compile_eq_ok hCompile
    obtain ⟨-, -, -, -, hOtherOrdered⟩ := exists_of_compile_eq_ok hOther
    exact ⟨entry, hOk,
      find?_of_mem hOrdered (hAll.holdsByController.perm.symm.subset (hWithin.subset hEntry)),
      find?_of_mem hOtherOrdered (hOthers.holdsByController.perm.symm.subset hEntry)⟩
  · intro hPerm hOrder pretty
    rw [hKeeping hOrder, keeping_congr (fun d => hPerm.mem_iff), ← hOwn]

/-- The command to rename an order goes before the customer, and the query for an order is gone. -/
theorem sample_rearranged_declarations_compile :
    ∃ other, compile "/api" [renameOrder, createCustomer] = .ok other ∧
      SharesEntry "/api" renameOrder (ofEntries (compileEach "/api" sampleDeclarations).2) other ∧
        other = keeping [renameOrder, createCustomer]
          (ofEntries (compileEach "/api" sampleDeclarations).2) := by
  have hSub : [renameOrder, createCustomer].Subperm sampleDeclarations :=
    ⟨_, List.Perm.swap renameOrder createCustomer [], List.sublist_cons_self _ _⟩
  have hOrder : KeepsOrder [renameOrder, createCustomer] sampleDeclarations := by
    -- The two are not in one controller, so their order does not matter.
    have hOther : controllerOf renameOrder ≠ controllerOf createCustomer := by decide +kernel
    exact List.pairwise_pair.mpr fun hSame => absurd hSame hOther
  obtain ⟨other, hOther, hShares, hKeeping, -⟩ :=
    (rearranged_declarations_compile "/api" sampleDeclarations).2 _ compile_sampleDeclarations
      [renameOrder, createCustomer] hSub
  exact ⟨other, hOther, hShares renameOrder (by simp), hKeeping hOrder⟩

end Catalogue
end Switchboard
