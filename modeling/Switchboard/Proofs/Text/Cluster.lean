import Switchboard.Text.Cluster
import Mathlib.Data.List.Basic

/-!
# Clusters

Cutting a text into clusters loses nothing.  In an ASCII text a cluster is one character, except for
the two characters that end a line, which stay together (`isLineCut_clusters`).
-/

namespace Switchboard
namespace Text

/-- The clusters make up the text, and none of them is empty. -/
theorem flatten_clustersAfter (before : Option BreakContext) (cs : List Char) :
    (clustersAfter before cs).2.flatten = cs ∧ [] ∉ (clustersAfter before cs).2 := by
  induction cs generalizing before with
  | nil => simp [clustersAfter]
  | cons c rest ih =>
      have hRest := ih (some (BreakContext.advance before (breakOf c)))
      rcases hTail : clustersAfter (some (BreakContext.advance before (breakOf c))) rest with
        ⟨_ | _, _ | ⟨cluster, clusters⟩⟩
      all_goals
        rw [hTail] at hRest
        simp_all [clustersAfter]

/-- What holds of the first 128 characters one by one holds of every ASCII character. -/
theorem forall_ascii {P : Char → Prop} (hEach : ∀ n : Fin 128, P (Char.ofNat n)) {c : Char}
    (hAscii : c.toNat < 128) : P c := by
  have hChar := hEach ⟨c.toNat, hAscii⟩
  rwa [Char.ofNat_toNat] at hChar

/-- The break classes of ASCII characters. -/
def asciiBreaks : List Break := [.carriageReturn, .lineFeed, .control, .other]

theorem breakOf_ascii {c : Char} (hAscii : c.toNat < 128) :
    breakOf c ∈ asciiBreaks ∧ (breakOf c = .carriageReturn → c = '\r') ∧
      (breakOf c = .lineFeed → c = '\n') :=
  forall_ascii (P := fun c => breakOf c ∈ asciiBreaks ∧
    (breakOf c = .carriageReturn → c = '\r') ∧ (breakOf c = .lineFeed → c = '\n'))
    (by decide +kernel) hAscii

theorem continues_ascii {before : BreakContext} {cls : Break} (hBefore : before.last ∈ asciiBreaks)
    (hCls : cls ∈ asciiBreaks) (hContinues : before.continues cls = true) :
    before.last = .carriageReturn ∧ cls = .lineFeed := by
  obtain ⟨last, oddRegional, afterPictograph, afterJoiner⟩ := before
  simp only [asciiBreaks, List.mem_cons, List.not_mem_nil, or_false] at hBefore hCls
  rcases hBefore with rfl | rfl | rfl | rfl <;> rcases hCls with rfl | rfl | rfl | rfl <;>
    simp [BreakContext.continues] at hContinues ⊢

/-- A text cut into single characters, where the two characters that end a line may be left
together. -/
inductive IsLineCut : List Char → List (List Char) → Prop
  | nil : IsLineCut [] []
  | single (c : Char) {rest : List Char} {clusters : List (List Char)}
      (hRest : IsLineCut rest clusters) : IsLineCut (c :: rest) ([c] :: clusters)
  | lineEnd {rest : List Char} {clusters : List (List Char)} (hRest : IsLineCut rest clusters) :
      IsLineCut ('\r' :: '\n' :: rest) (['\r', '\n'] :: clusters)

theorem isLineCut_clustersAfter {cs : List Char} (hAscii : ∀ c ∈ cs, c.toNat < 128)
    {before : Option BreakContext} (hBefore : ∀ context ∈ before, context.last ∈ asciiBreaks) :
    IsLineCut cs (clustersAfter before cs).2 ∧
      ((clustersAfter before cs).1 = true → cs.head? = some '\n' ∧
        ∀ context ∈ before, context.last = .carriageReturn) := by
  induction cs generalizing before with
  | nil => exact ⟨.nil, nofun⟩
  | cons c rest ih =>
      obtain ⟨hClass, hReturn, hFeed⟩ := breakOf_ascii (hAscii c (by simp))
      have hAdvance : ∀ context ∈ some (BreakContext.advance before (breakOf c)),
          context.last ∈ asciiBreaks := by
        intro context hContext
        obtain rfl := Option.mem_some.mp hContext
        exact hClass
      obtain ⟨hCut, hJoined⟩ := ih (fun d hd => hAscii d (List.mem_cons_of_mem c hd)) hAdvance
      have hContinued : before.any (·.continues (breakOf c)) = true →
          (c :: rest).head? = some '\n' ∧
            ∀ context ∈ before, context.last = .carriageReturn := by
        intro hAny
        cases before with
        | none => exact nomatch hAny
        | some context =>
            obtain ⟨hLast, hClass⟩ := continues_ascii (hBefore context rfl) hClass hAny
            refine ⟨by rw [hFeed hClass]; rfl, fun other hOther => ?_⟩
            rwa [← Option.mem_some.mp hOther]
      rcases hTail : clustersAfter (some (BreakContext.advance before (breakOf c))) rest with
        ⟨joined, clusters⟩
      rw [hTail] at hCut hJoined
      cases joined with
      | false =>
          rw [clustersAfter, hTail]
          exact ⟨.single c hCut, hContinued⟩
      | true =>
          -- The character ends a line together with the next one.
          obtain ⟨hNext, hLast⟩ := hJoined rfl
          obtain rfl : c = '\r' := hReturn (hLast _ rfl)
          cases hCut with
          | nil => exact nomatch hNext
          | single d hRest =>
              obtain rfl : d = '\n' := Option.some.inj hNext
              rw [clustersAfter, hTail]
              exact ⟨.lineEnd hRest, hContinued⟩
          | lineEnd hRest => exact absurd (Option.some.inj hNext) (by decide)

theorem isLineCut_clusters {cs : List Char} (hAscii : ∀ c ∈ cs, c.toNat < 128) :
    IsLineCut cs (clusters cs) :=
  (isLineCut_clustersAfter hAscii (by simp)).1

end Text
end Switchboard
