import Mathlib.Data.List.Sort
import Switchboard.Catalogue.Compile
import Switchboard.Proofs.Catalogue.Validity

/-!
# The statuses of an endpoint

The declared statuses are gathered from the left to the right.  A status is put behind those that
are gathered so far unless it is one of them, and where none is declared the usual one is taken.
What is gathered is told by its members and their order alone (`isProducedFrom_iff`): it is never
empty, so there is a first status to succeed with, and gathering it again changes nothing.  Of the
declared statuses compiling looks at nothing else (`produced_statuses_are_normal`).  Whether the
first one is a status of success is not said here.
-/

namespace Switchboard
namespace Catalogue

open Endpoint (Declaration Status)

/-! ### The first of each -/

section Distinct

variable {α : Type} [DecidableEq α]

theorem mem_distinctFrom_iff (seen xs : List α) (a : α) :
    a ∈ distinctFrom seen xs ↔ a ∈ xs ∧ a ∉ seen := by
  induction xs generalizing seen with
  | nil => simp [distinctFrom]
  | cons x rest ih =>
      rw [distinctFrom]
      by_cases hSeen : x ∈ seen
      · rw [if_pos hSeen, ih, List.mem_cons]
        constructor
        · exact fun hMem => ⟨Or.inr hMem.1, hMem.2⟩
        · rintro ⟨rfl | hRest, hNew⟩
          · exact absurd hSeen hNew
          · exact ⟨hRest, hNew⟩
      · rw [if_neg hSeen, List.mem_cons, ih, List.mem_cons, List.mem_cons]
        by_cases hFirst : a = x
        · subst hFirst
          simp [hSeen]
        · simp [hFirst]

/-- What is kept stands in the order of first occurrence. -/
theorem pairwise_distinctFrom (seen xs : List α) :
    (distinctFrom seen xs).Pairwise fun a b => xs.idxOf a < xs.idxOf b := by
  induction xs generalizing seen with
  | nil => exact List.Pairwise.nil
  | cons x rest ih =>
      have hNe : ∀ {seen : List α} {a : α}, x ∈ seen → a ∈ distinctFrom seen rest → x ≠ a := by
        rintro seen a hSeen hMem rfl
        exact ((mem_distinctFrom_iff seen rest x).mp hMem).2 hSeen
      -- Once the first member is seen, the others occur one place further on.
      have hRest : ∀ {seen : List α}, x ∈ seen → (distinctFrom seen rest).Pairwise
          fun a b => (x :: rest).idxOf a < (x :: rest).idxOf b := by
        intro seen hSeen
        refine (ih seen).imp_of_mem fun ha hb hLess => ?_
        rw [List.idxOf_cons_ne rest (hNe hSeen ha), List.idxOf_cons_ne rest (hNe hSeen hb)]
        omega
      rw [distinctFrom]
      split_ifs with hSeen
      · exact hRest hSeen
      · refine List.pairwise_cons.mpr ⟨fun a ha => ?_, hRest List.mem_cons_self⟩
        rw [List.idxOf_cons_self, List.idxOf_cons_ne rest (hNe List.mem_cons_self ha)]
        omega

theorem nodup_distinctFrom (seen xs : List α) : (distinctFrom seen xs).Nodup := by
  refine (pairwise_distinctFrom seen xs).imp ?_
  rintro a _ hLess rfl
  omega

/-- Looking into what is gathered is as good as remembering all that was seen. -/
theorem foldl_gather {seen gathered : List α} (hSame : ∀ a, a ∈ seen ↔ a ∈ gathered)
    (xs : List α) : xs.foldl gather gathered = gathered ++ distinctFrom seen xs := by
  induction xs generalizing seen gathered with
  | nil => simp [distinctFrom]
  | cons x rest ih =>
      rw [List.foldl_cons, gather, distinctFrom]
      by_cases hSeen : x ∈ seen
      · rw [if_pos ((hSame x).mp hSeen), if_pos hSeen, ih hSame]
      · have hNext : ∀ a, a ∈ x :: seen ↔ a ∈ gathered ++ [x] := by
          intro a
          rw [List.mem_cons, List.mem_append, List.mem_singleton, hSame a, or_comm]
        rw [if_neg (mt (hSame x).mpr hSeen), if_neg hSeen, ih hNext, List.append_assoc,
          List.singleton_append]

end Distinct

/-! ### The statuses that are produced -/

/-- What the statuses of an endpoint are for those that are declared. -/
structure IsProducedFrom (declared statuses : List Status) : Prop where
  ne_nil : statuses ≠ []
  nodup : statuses.Nodup
  mem_iff : declared ≠ [] → ∀ status, status ∈ statuses ↔ status ∈ declared
  of_nil : declared = [] → statuses = [.ok]
  /-- They stand in the order in which they are declared first. -/
  in_order : statuses.Pairwise fun a b => declared.idxOf a < declared.idxOf b

/-- The first status and the others are the head and the tail of those gathered. -/
theorem gatheredStatuses_eq (declared : List Status) :
    gatheredStatuses declared =
      (producedStatuses declared).1 :: (producedStatuses declared).2 := by
  unfold gatheredStatuses producedStatuses
  rw [foldl_gather (fun _ => Iff.rfl), List.nil_append]
  cases distinctFrom [] declared with
  | nil => rfl
  | cons status others => rfl

theorem gatheredStatuses_of_ne_nil {declared : List Status} (hNe : declared ≠ []) :
    gatheredStatuses declared = distinctFrom [] declared := by
  obtain ⟨status, rest, rfl⟩ := List.exists_cons_of_ne_nil hNe
  rw [gatheredStatuses_eq]
  simp [producedStatuses, distinctFrom]

theorem isProducedFrom_gatheredStatuses (declared : List Status) :
    IsProducedFrom declared (gatheredStatuses declared) := by
  by_cases hNil : declared = []
  · subst hNil
    exact ⟨by decide, by decide, fun hNe => absurd rfl hNe, fun _ => rfl, by decide⟩
  · have hNe : gatheredStatuses declared ≠ [] := by
      rw [gatheredStatuses_eq]
      exact List.cons_ne_nil _ _
    rw [gatheredStatuses_of_ne_nil hNil] at hNe ⊢
    refine ⟨hNe, nodup_distinctFrom [] declared, fun _ status => ?_, fun hEq => absurd hEq hNil,
      pairwise_distinctFrom [] declared⟩
    simp [mem_distinctFrom_iff]

/-- Members and order determine the statuses. -/
theorem IsProducedFrom.unique {declared statuses others : List Status}
    (hStatuses : IsProducedFrom declared statuses) (hOthers : IsProducedFrom declared others) :
    statuses = others := by
  by_cases hNil : declared = []
  · rw [hStatuses.of_nil hNil, hOthers.of_nil hNil]
  · have : Std.Antisymm fun a b => declared.idxOf a < declared.idxOf b :=
      ⟨fun a b hLess hGreater => absurd hLess hGreater.asymm⟩
    have : Std.Irrefl fun a b => declared.idxOf a < declared.idxOf b :=
      ⟨fun a => lt_irrefl (declared.idxOf a)⟩
    apply hStatuses.in_order.eq_of_mem_iff hOthers.in_order
    intro status
    rw [hStatuses.mem_iff hNil, hOthers.mem_iff hNil]

theorem isProducedFrom_iff (declared statuses : List Status) :
    IsProducedFrom declared statuses ↔ statuses = gatheredStatuses declared := by
  constructor
  · exact fun hStatuses => hStatuses.unique (isProducedFrom_gatheredStatuses declared)
  · rintro rfl
    exact isProducedFrom_gatheredStatuses declared

/-- Statuses without repeats are produced as they are declared. -/
theorem isProducedFrom_self {statuses : List Status} (hNe : statuses ≠ [])
    (hNodup : statuses.Nodup) : IsProducedFrom statuses statuses := by
  refine ⟨hNe, hNodup, fun _ _ => Iff.rfl, fun hNil => absurd hNil hNe, ?_⟩
  rw [List.pairwise_iff_getElem]
  intro i j hi hj hLess
  rwa [hNodup.idxOf_getElem, hNodup.idxOf_getElem]

theorem gatheredStatuses_gatheredStatuses (declared : List Status) :
    gatheredStatuses (gatheredStatuses declared) = gatheredStatuses declared := by
  have hOnce := isProducedFrom_gatheredStatuses declared
  exact ((isProducedFrom_iff _ _).mp (isProducedFrom_self hOnce.ne_nil hOnce.nodup)).symm

/-- No status is produced twice. -/
theorem nodup_producedStatuses (declared : List Status) :
    ((producedStatuses declared).1 :: (producedStatuses declared).2).Nodup := by
  rw [← gatheredStatuses_eq]
  exact (isProducedFrom_gatheredStatuses declared).nodup

/-! ### Compiling with other statuses -/

/-- A declaration has one entry, or the same problems, under all declared statuses from which the
same are produced. -/
theorem entryOf_producing {declared others : List Status}
    (hSame : producedStatuses declared = producedStatuses others) (routePrefix : String)
    (d : Declaration) :
    entryOf routePrefix (d.producing declared) = entryOf routePrefix (d.producing others) := by
  have hRead : producedStatuses (d.producing declared).statuses =
      producedStatuses (d.producing others).statuses := hSame
  have hStatuses : statusesOf (d.producing declared) = statusesOf (d.producing others) := by
    unfold statusesOf
    rw [hRead]
  have hProblems : problemsOf (d.producing declared) = problemsOf (d.producing others) := by
    unfold problemsOf
    rw [hStatuses]
    rfl
  have hParts : partsOf? (d.producing declared) = partsOf? (d.producing others) := rfl
  have hEntry (parts : Parts) : parts.entry routePrefix (d.producing declared) =
      parts.entry routePrefix (d.producing others) := by
    unfold Parts.entry
    rw [hRead]
    rfl
  simp only [entryOf, hProblems, hParts, hEntry]

/-- Declarations that are compiled alike one by one are compiled alike together. -/
theorem compile_congr {routePrefix : String} {ds es : List Declaration}
    (hAlike : List.Forall₂ (fun d e => d.qualifiedName = e.qualifiedName ∧
      entryOf routePrefix d = entryOf routePrefix e) ds es) :
    compile routePrefix ds = compile routePrefix es := by
  have hEach : compileEach routePrefix ds = compileEach routePrefix es := by
    induction hAlike with
    | nil => rfl
    | cons hFirst _ ih => simp only [compileEach, hFirst.1, hFirst.2, ih]
  unfold compile diagnose
  rw [hEach]

/-- **What is made of the declared statuses.**  It is never empty, so its head and its tail are
there to be the status of success and the other statuses of a route; it holds the declared statuses,
each once, in the order in which they are declared first; and declaring it in their place changes
neither it nor what is compiled from the declaration, wherever the declaration stands. -/
theorem produced_statuses_are_normal (declared : List Status) :
    (∀ statuses, IsProducedFrom declared statuses ↔ statuses = gatheredStatuses declared) ∧
      gatheredStatuses declared =
        (producedStatuses declared).1 :: (producedStatuses declared).2 ∧
      gatheredStatuses (gatheredStatuses declared) = gatheredStatuses declared ∧
      ∀ routePrefix front (d : Declaration) back,
        compile routePrefix (front ++ d.producing (gatheredStatuses declared) :: back) =
          compile routePrefix (front ++ d.producing declared :: back) := by
  have hTwice := gatheredStatuses_gatheredStatuses declared
  refine ⟨isProducedFrom_iff declared, gatheredStatuses_eq declared, hTwice, ?_⟩
  intro routePrefix front d back
  have hProduced : producedStatuses (gatheredStatuses declared) = producedStatuses declared := by
    have hCons := (gatheredStatuses_eq (gatheredStatuses declared)).symm.trans hTwice
    obtain ⟨hHead, hTail⟩ := List.cons.inj (hCons.trans (gatheredStatuses_eq declared))
    exact Prod.ext hHead hTail
  have hSelf (ds : List Declaration) : List.Forall₂ (fun d e =>
      d.qualifiedName = e.qualifiedName ∧ entryOf routePrefix d = entryOf routePrefix e) ds ds :=
    List.forall₂_same.mpr fun _ _ => ⟨rfl, rfl⟩
  apply compile_congr
  apply List.rel_append (hSelf front)
  exact .cons ⟨rfl, entryOf_producing hProduced routePrefix d⟩ (hSelf back)

/-- A status that is declared again is left out. -/
example : producedStatuses [.ok, .notFound, .ok] = (.ok, [.notFound]) := by decide

end Catalogue
end Switchboard
