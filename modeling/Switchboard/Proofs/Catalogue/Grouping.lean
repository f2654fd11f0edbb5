import Switchboard.Proofs.Catalogue.Acceptance
import Switchboard.Proofs.Text.OctetOrder

/-!
# Grouping entries by controller

Adding an entry to the controllers puts it behind the entries of its own controller and moves no
other entry.  Hence the controllers of a whole list hold the entries of each controller in the order
of the list, and all entries, controller by controller, are the list sorted by the names of the
controllers, where entries of one controller keep their order.  Such a sorted list is determined by
its order and by the entries of each controller (`eq_of_pairwise_of_filter_eq`).
-/

namespace Switchboard
namespace Catalogue

open Endpoint (Declaration)

/-! ### Sorting that keeps the order of equal keys -/

section Sorting

variable {α κ : Type} [LinearOrder κ] (key : α → κ)

theorem decide_key_le_trans (a b c : α) (hab : decide (key a ≤ key b) = true)
    (hbc : decide (key b ≤ key c) = true) : decide (key a ≤ key c) = true :=
  decide_eq_true ((of_decide_eq_true hab).trans (of_decide_eq_true hbc))

theorem decide_key_le_total (a b : α) :
    (decide (key a ≤ key b) || decide (key b ≤ key a)) = true := by
  simpa using le_total (key a) (key b)

/-- A sorted list is determined by the members with each key in their order. -/
theorem eq_of_pairwise_of_filter_eq {xs ys : List α}
    (hSorted : xs.Pairwise fun a b => key a ≤ key b)
    (hOtherSorted : ys.Pairwise fun a b => key a ≤ key b)
    (hFilter : ∀ k, xs.filter (fun a => decide (key a = k)) =
      ys.filter (fun a => decide (key a = k))) : xs = ys := by
  -- The head of either list occurs in the other one, so neither key is the greater one.
  have hLe : ∀ {a : α} {as bs : List α}, (a :: as).Pairwise (fun a b => key a ≤ key b) →
      (∀ k, (a :: as).filter (fun a => decide (key a = k)) =
        bs.filter (fun a => decide (key a = k))) → ∀ b ∈ bs, key a ≤ key b := by
    intro a as bs hPairwise hEq b hb
    have hMem : b ∈ (a :: as).filter (fun x => decide (key x = key b)) := by
      rw [hEq]
      simp [hb]
    rcases List.mem_cons.mp (List.mem_filter.mp hMem).1 with rfl | hTail
    · exact le_refl _
    · exact (List.pairwise_cons.mp hPairwise).1 b hTail
  induction xs generalizing ys with
  | nil =>
      cases ys with
      | nil => rfl
      | cons b bs => simpa using hFilter (key b)
  | cons a as ih =>
      cases ys with
      | nil => simpa using hFilter (key a)
      | cons b bs =>
          have hKey : key a = key b :=
            le_antisymm (hLe hSorted hFilter b (by simp))
              (hLe hOtherSorted (fun k => (hFilter k).symm) a (by simp))
          have hHead := hFilter (key b)
          simp only [hKey, decide_true, List.filter_cons_of_pos, List.cons.injEq] at hHead
          obtain ⟨rfl, -⟩ := hHead
          rw [ih (List.pairwise_cons.mp hSorted).2 (List.pairwise_cons.mp hOtherSorted).2]
          intro k
          have hAt := hFilter k
          by_cases hk : key a = k
          · simpa [hk] using hAt
          · simpa [hk] using hAt

theorem filter_mergeSort (xs : List α) (k : κ) :
    (xs.mergeSort fun a b => decide (key a ≤ key b)).filter (fun a => decide (key a = k)) =
      xs.filter (fun a => decide (key a = k)) := by
  have hSublist : (xs.filter fun a => decide (key a = k)).Sublist
      (xs.mergeSort fun a b => decide (key a ≤ key b)) := by
    apply List.sublist_mergeSort (decide_key_le_trans key) (decide_key_le_total key)
    · refine List.pairwise_iff_forall_sublist.mpr fun {a b} hPair => ?_
      have ha := List.mem_filter.mp (hPair.subset (List.mem_cons_self))
      have hb := List.mem_filter.mp (hPair.subset (List.mem_cons_of_mem _ List.mem_cons_self))
      simp only [decide_eq_true_eq] at ha hb ⊢
      rw [ha.2, hb.2]
    · exact List.filter_sublist
  -- The members with the key are as many after sorting as before, so a sublist is the whole.
  have hFiltered := hSublist.filter (fun a => decide (key a = k))
  rw [List.filter_filter] at hFiltered
  simp only [Bool.and_self] at hFiltered
  refine (hFiltered.eq_of_length ?_).symm
  exact ((List.mergeSort_perm xs _).filter _).length_eq.symm

/-- A list sorted by a key, in which members with one key stand as they do in another list, is the
other list sorted. -/
theorem eq_mergeSort {xs ys : List α} (hSorted : xs.Pairwise fun a b => key a ≤ key b)
    (hFilter : ∀ k, xs.filter (fun a => decide (key a = k)) =
      ys.filter (fun a => decide (key a = k))) :
    xs = ys.mergeSort fun a b => decide (key a ≤ key b) := by
  apply eq_of_pairwise_of_filter_eq key hSorted
  · have hPairwise :=
      List.pairwise_mergeSort (decide_key_le_trans key) (decide_key_le_total key) ys
    exact hPairwise.imp fun h => of_decide_eq_true h
  · intro k
    rw [hFilter, filter_mergeSort]

end Sorting

/-! ### Controllers -/

/-- Controllers as they stand in a catalogue: their names increase, and each holds entries, all of
them its own. -/
structure IsGrouped (controllers : List Controller) : Prop where
  increasing : controllers.Pairwise fun a b => a.name < b.name
  nonempty : ∀ controller ∈ controllers, controller.entries ≠ []
  route : ∀ controller ∈ controllers, controller.route = Text.kebab controller.name
  own : ∀ controller ∈ controllers, ∀ entry ∈ controller.entries,
    entry.route.controller = controller.name

theorem isGrouped_nil : IsGrouped [] :=
  ⟨List.Pairwise.nil, by simp, by simp, by simp⟩

theorem IsGrouped.tail {controller : Controller} {rest : List Controller}
    (hGrouped : IsGrouped (controller :: rest)) : IsGrouped rest :=
  ⟨(List.pairwise_cons.mp hGrouped.increasing).2,
    fun other hOther => hGrouped.nonempty other (List.mem_cons_of_mem _ hOther),
    fun other hOther => hGrouped.route other (List.mem_cons_of_mem _ hOther),
    fun other hOther => hGrouped.own other (List.mem_cons_of_mem _ hOther)⟩

theorem IsGrouped.cons {controller : Controller} {rest : List Controller}
    (hRest : IsGrouped rest) (hLess : ∀ other ∈ rest, controller.name < other.name)
    (hNonempty : controller.entries ≠ []) (hRoute : controller.route = Text.kebab controller.name)
    (hOwn : ∀ entry ∈ controller.entries, entry.route.controller = controller.name) :
    IsGrouped (controller :: rest) := by
  refine ⟨List.pairwise_cons.mpr ⟨hLess, hRest.increasing⟩, ?_, ?_, ?_⟩
  · intro other hOther
    rcases List.mem_cons.mp hOther with rfl | hOther
    · exact hNonempty
    · exact hRest.nonempty other hOther
  · intro other hOther
    rcases List.mem_cons.mp hOther with rfl | hOther
    · exact hRoute
    · exact hRest.route other hOther
  · intro other hOther
    rcases List.mem_cons.mp hOther with rfl | hOther
    · exact hOwn
    · exact hRest.own other hOther

theorem mem_addEntry_name {entry : Entry} {controllers : List Controller}
    {controller : Controller} (hMem : controller ∈ addEntry entry controllers) :
    controller.name = entry.route.controller ∨
      ∃ other ∈ controllers, other.name = controller.name := by
  induction controllers with
  | nil =>
      simp only [addEntry, List.mem_singleton] at hMem
      exact Or.inl (by rw [hMem])
  | cons first rest ih =>
      unfold addEntry at hMem
      split_ifs at hMem with hSame hLess
      · rcases List.mem_cons.mp hMem with rfl | hRest
        · exact Or.inl hSame.symm
        · exact Or.inr ⟨controller, List.mem_cons_of_mem _ hRest, rfl⟩
      · rcases List.mem_cons.mp hMem with rfl | hRest
        · exact Or.inl rfl
        · exact Or.inr ⟨controller, hRest, rfl⟩
      · rcases List.mem_cons.mp hMem with rfl | hRest
        · exact Or.inr ⟨controller, by simp, rfl⟩
        · rcases ih hRest with hEntry | ⟨other, hOther, hName⟩
          · exact Or.inl hEntry
          · exact Or.inr ⟨other, List.mem_cons_of_mem _ hOther, hName⟩

/-- One step of grouping keeps the controllers as they should stand. -/
theorem IsGrouped.addEntry {controllers : List Controller} (hGrouped : IsGrouped controllers)
    (entry : Entry) : IsGrouped (addEntry entry controllers) := by
  induction controllers with
  | nil => exact isGrouped_nil.cons (by simp) (by simp) rfl (by simp)
  | cons first rest ih =>
      have hFirst := List.pairwise_cons.mp hGrouped.increasing
      unfold Catalogue.addEntry
      split_ifs with hSame hLess
      · refine hGrouped.tail.cons hFirst.1 (by simp) (hGrouped.route first (by simp)) ?_
        intro other hOther
        rcases List.mem_append.mp hOther with hOld | hNew
        · exact hGrouped.own first (by simp) other hOld
        · rw [List.mem_singleton.mp hNew]
          exact hSame
      · refine hGrouped.cons ?_ (by simp) rfl (by simp)
        intro other hOther
        rcases List.mem_cons.mp hOther with rfl | hOther
        · exact hLess
        · exact lt_trans hLess (hFirst.1 other hOther)
      · -- The entry goes further back, where all names are those from before and its own.
        have hGreater : first.name < entry.route.controller :=
          lt_of_le_of_ne (not_lt.mp hLess) (Ne.symm hSame)
        refine (ih hGrouped.tail).cons ?_ (hGrouped.nonempty first (by simp))
          (hGrouped.route first (by simp)) (hGrouped.own first (by simp))
        intro other hOther
        rcases mem_addEntry_name hOther with hName | ⟨old, hOld, hName⟩
        · rw [hName]
          exact hGreater
        · rw [← hName]
          exact hFirst.1 old hOld

theorem IsGrouped.filter_eq_nil {controllers : List Controller}
    (hGrouped : IsGrouped controllers) (name : String)
    (hLess : ∀ controller ∈ controllers, name < controller.name) :
    (controllers.flatMap (·.entries)).filter
      (fun entry => decide (entry.route.controller = name)) = [] := by
  rw [List.filter_eq_nil_iff]
  intro entry hEntry
  obtain ⟨controller, hController, hIn⟩ := List.mem_flatMap.mp hEntry
  rw [decide_eq_true_eq, hGrouped.own controller hController entry hIn]
  exact (hLess controller hController).ne'

/-- One step of grouping puts the entry behind the entries of its own controller, and keeps the
order of the entries of each. -/
theorem IsGrouped.filter_addEntry {controllers : List Controller}
    (hGrouped : IsGrouped controllers) (entry : Entry) (name : String) :
    ((Catalogue.addEntry entry controllers).flatMap (·.entries)).filter
        (fun e => decide (e.route.controller = name)) =
      (controllers.flatMap (·.entries) ++ [entry]).filter
        (fun e => decide (e.route.controller = name)) := by
  induction controllers with
  | nil => simp [Catalogue.addEntry]
  | cons first rest ih =>
      have hFirst := List.pairwise_cons.mp hGrouped.increasing
      unfold Catalogue.addEntry
      split_ifs with hSame hLess
      · -- Behind its own controller stand only controllers with greater names.
        have hRest := hGrouped.tail.filter_eq_nil entry.route.controller (hSame ▸ hFirst.1)
        by_cases hName : entry.route.controller = name
        · subst hName
          simp [List.filter_append, hRest]
        · simp [List.filter_append, hName]
      · have hAll := hGrouped.filter_eq_nil entry.route.controller (by
          intro other hOther
          rcases List.mem_cons.mp hOther with rfl | hOther
          · exact hLess
          · exact lt_trans hLess (hFirst.1 other hOther))
        by_cases hName : entry.route.controller = name
        · subst hName
          rw [List.filter_append, hAll, List.flatMap_cons, List.filter_append, hAll]
          simp
        · rw [List.flatMap_cons, List.filter_append, List.filter_append]
          simp [hName]
      · rw [List.flatMap_cons, List.filter_append, ih hGrouped.tail, List.flatMap_cons]
        simp only [List.filter_append, List.append_assoc]

/-- Grouping a whole list keeps the order of the entries of each controller. -/
theorem isGrouped_foldl (entries : List Entry) {controllers : List Controller}
    (hGrouped : IsGrouped controllers) :
    IsGrouped (entries.foldl (fun controllers entry => Catalogue.addEntry entry controllers)
        controllers) ∧
      ∀ name, ((entries.foldl (fun controllers entry => Catalogue.addEntry entry controllers)
          controllers).flatMap (·.entries)).filter
            (fun e => decide (e.route.controller = name)) =
        (controllers.flatMap (·.entries) ++ entries).filter
          (fun e => decide (e.route.controller = name)) := by
  induction entries generalizing controllers with
  | nil => simpa using hGrouped
  | cons entry rest ih =>
      obtain ⟨hAfter, hFilter⟩ := ih (hGrouped.addEntry entry)
      refine ⟨hAfter, fun name => ?_⟩
      rw [List.foldl_cons, hFilter name, List.filter_append, hGrouped.filter_addEntry entry name,
        ← List.filter_append, List.append_assoc, List.singleton_append]

theorem IsGrouped.pairwise_entries {controllers : List Controller}
    (hGrouped : IsGrouped controllers) :
    (controllers.flatMap (·.entries)).Pairwise
      fun a b => a.route.controller ≤ b.route.controller := by
  rw [List.pairwise_flatMap]
  constructor
  · intro controller hController
    refine List.pairwise_of_forall_mem_list fun a ha b hb => ?_
    rw [hGrouped.own controller hController a ha, hGrouped.own controller hController b hb]
  · refine hGrouped.increasing.imp_of_mem fun {c d} hc hd hLess a ha b hb => ?_
    rw [hGrouped.own c hc a ha, hGrouped.own d hd b hb]
    exact hLess.le

/-- The entries that stand in a controller are the entries of that controller. -/
theorem IsGrouped.entries_eq_filter {controllers : List Controller}
    (hGrouped : IsGrouped controllers) {controller : Controller}
    (hController : controller ∈ controllers) :
    controller.entries = (controllers.flatMap (·.entries)).filter
      (fun entry => decide (entry.route.controller = controller.name)) := by
  induction controllers with
  | nil => simp at hController
  | cons first rest ih =>
      have hFirst := List.pairwise_cons.mp hGrouped.increasing
      rw [List.flatMap_cons, List.filter_append]
      rcases List.mem_cons.mp hController with rfl | hRest
      · have hOwn : controller.entries.filter
            (fun entry => decide (entry.route.controller = controller.name)) =
              controller.entries :=
          List.filter_eq_self.mpr fun entry hEntry =>
            decide_eq_true (hGrouped.own controller (by simp) entry hEntry)
        rw [hOwn, hGrouped.tail.filter_eq_nil _ hFirst.1, List.append_nil]
      · have hNone : first.entries.filter
            (fun entry => decide (entry.route.controller = controller.name)) = [] := by
          rw [List.filter_eq_nil_iff]
          intro entry hEntry
          rw [decide_eq_true_eq, hGrouped.own first (by simp) entry hEntry]
          exact (hFirst.1 controller hRest).ne
        rw [hNone, List.nil_append, ← ih hGrouped.tail hRest]

/-- A catalogue that holds entries by controller: the controllers increase octet by octet, none is
empty, and each holds its own entries in their order. -/
structure HoldsByController (entries : List Entry) (catalogue : Catalogue) : Prop where
  increasing : (catalogue.controllers.map fun controller => Text.utf8 controller.name).Pairwise
    (· < ·)
  nonempty : ∀ controller ∈ catalogue.controllers, controller.entries ≠ []
  own : ∀ controller ∈ catalogue.controllers, ∀ entry ∈ controller.entries,
    entry.route.controller = controller.name ∧ controller.route = entry.route.controllerRoute
  in_order : ∀ controller ∈ catalogue.controllers, controller.entries =
    entries.filter fun entry => decide (entry.route.controller = controller.name)
  sorted : catalogue.entries =
    entries.mergeSort fun a b => decide (a.route.controller ≤ b.route.controller)

theorem Compiles.controllerRoute {routePrefix : String} {ds : List Declaration}
    {entries : List Entry} (hAll : Compiles routePrefix ds entries) {entry : Entry}
    (hEntry : entry ∈ entries) :
    entry.route.controllerRoute = Text.kebab entry.route.controller := by
  obtain ⟨d, -, hOk⟩ := hAll.exists_declaration hEntry
  exact controllerRoute_of_entryOf_eq_ok hOk

/-- Entries that were compiled one by one are grouped as they should be. -/
theorem Compiles.holdsByController {routePrefix : String} {ds : List Declaration}
    {entries : List Entry} (hAll : Compiles routePrefix ds entries) :
    HoldsByController entries (ofEntries entries) := by
  obtain ⟨hGrouped, hFilter⟩ := isGrouped_foldl entries isGrouped_nil
  simp only [List.flatMap_nil, List.nil_append] at hFilter
  have hSorted : (ofEntries entries).entries =
      entries.mergeSort fun a b => decide (a.route.controller ≤ b.route.controller) :=
    eq_mergeSort (fun entry : Entry => entry.route.controller) hGrouped.pairwise_entries hFilter
  refine ⟨?_, hGrouped.nonempty, ?_, ?_, hSorted⟩
  · rw [List.pairwise_map]
    exact hGrouped.increasing.imp fun hLess => (Text.lt_iff_utf8_lt _ _).mp hLess
  · intro controller hController entry hEntry
    have hOwn := hGrouped.own controller hController entry hEntry
    have hMem : entry ∈ entries := by
      have hSome : entry ∈ (ofEntries entries).entries :=
        List.mem_flatMap.mpr ⟨controller, hController, hEntry⟩
      rwa [hSorted, List.mem_mergeSort] at hSome
    rw [hAll.controllerRoute hMem, hOwn]
    exact ⟨rfl, hGrouped.route controller hController⟩
  · intro controller hController
    rw [hGrouped.entries_eq_filter hController]
    exact hFilter controller.name

theorem HoldsByController.perm {entries : List Entry} {catalogue : Catalogue}
    (hHolds : HoldsByController entries catalogue) : catalogue.entries.Perm entries := by
  rw [hHolds.sorted]
  exact List.mergeSort_perm _ _

/-- The entries of a compiled catalogue are those of the declarations, and any two of them are
apart. -/
theorem exists_of_compile_eq_ok {routePrefix : String} {ds : List Declaration}
    {catalogue : Catalogue} (hCompile : compile routePrefix ds = .ok catalogue) :
    ∃ entries, Compiles routePrefix ds entries ∧ HoldsByController entries catalogue ∧
      entries.Pairwise Apart ∧ catalogue.entries.Pairwise Apart := by
  obtain ⟨entries, hAll, hNone, rfl⟩ := (compile_eq_ok_iff routePrefix ds catalogue).mp hCompile
  have hApart := ((collisions_eq_nil_iff entries).mp hNone).2
  have hHolds := hAll.holdsByController
  exact ⟨entries, hAll, hHolds, hApart, (hHolds.perm.pairwise_iff Apart.symm).mpr hApart⟩

/-- Each entry of a compiled catalogue was made from one of the declarations. -/
theorem exists_declaration_of_mem_entries {routePrefix : String} {ds : List Declaration}
    {catalogue : Catalogue} (hCompile : compile routePrefix ds = .ok catalogue) {entry : Entry}
    (hEntry : entry ∈ catalogue.entries) : ∃ d ∈ ds, entryOf routePrefix d = .ok entry := by
  obtain ⟨entries, hAll, hHolds, -, -⟩ := exists_of_compile_eq_ok hCompile
  exact hAll.exists_declaration (hHolds.perm.subset hEntry)

/-- The parameters in the paths of a compiled catalogue have names. -/
theorem isNamed_of_mem_entries {routePrefix : String} {ds : List Declaration}
    {catalogue : Catalogue} (hCompile : compile routePrefix ds = .ok catalogue) {entry : Entry}
    (hEntry : entry ∈ catalogue.entries) : entry.IsNamed := by
  obtain ⟨entries, hAll, hNone, rfl⟩ := (compile_eq_ok_iff routePrefix ds catalogue).mp hCompile
  exact ((collisions_eq_nil_iff entries).mp hNone).1 entry
    (hAll.holdsByController.perm.subset hEntry)

/-- A compiled catalogue holds one entry for each declaration, by controller.  None is lost on the
way, for no declaration is refused without a problem, and where there are no problems every part of
the entry is there. -/
theorem compile_holds_each_declaration {routePrefix : String} {ds : List Declaration}
    {catalogue : Catalogue} (hCompile : compile routePrefix ds = .ok catalogue) :
    (∃ entries, Compiles routePrefix ds entries ∧ HoldsByController entries catalogue) ∧
      catalogue.size = ds.length ∧
      (∀ d, entryOf routePrefix d ≠ .error []) ∧
      ∀ d, problemsOf d = [] → ∃ parts, partsOf? d = some parts := by
  obtain ⟨entries, hAll, hHolds, -, -⟩ := exists_of_compile_eq_ok hCompile
  refine ⟨⟨entries, hAll, hHolds⟩, ?_, entryOf_ne_error_nil routePrefix,
    fun d => exists_parts_of_problemsOf_eq_nil⟩
  rw [size, hHolds.perm.length_eq]
  exact hAll.length_eq.symm

/-- The customer that is declared between the orders does not part them in the catalogue. -/
theorem sample_catalogue_holds_each_declaration :
    ∃ catalogue entries, compile "/api" sampleDeclarations = .ok catalogue ∧
      Compiles "/api" sampleDeclarations entries ∧ HoldsByController entries catalogue ∧
        catalogue.size = 3 := by
  obtain ⟨⟨entries, hAll, hHolds⟩, hSize, -⟩ :=
    compile_holds_each_declaration compile_sampleDeclarations
  exact ⟨_, entries, compile_sampleDeclarations, hAll, hHolds, hSize⟩

end Catalogue
end Switchboard
