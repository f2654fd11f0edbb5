import Mathlib.Data.List.TakeWhile
import Switchboard.Http.Uri

/-!
# What targets hold

The path and the query of a target end before a number sign, so neither holds one
(`Uri.isWithoutHash_of_parse`).  A query without number signs that is read as part of a target is
read whole (`Uri.query_of_parse`).  Which characters a target may hold besides is not looked at.
-/

namespace Switchboard
namespace Http

/-- Neither the path nor the query of a target holds a number sign. -/
structure Uri.IsWithoutHash (uri : Uri) : Prop where
  path : '#' ∉ uri.path.toList
  query : ∀ query, uri.query = some query → '#' ∉ query.toList

theorem hash_not_mem_takeWhile {p : Char → Bool} (hHash : p '#' = false) (cs : List Char) :
    '#' ∉ cs.takeWhile p := by
  intro hMem
  have hTrue := List.mem_takeWhile_imp hMem
  rw [hHash] at hTrue
  exact nomatch hTrue

theorem isWithoutHash_of_readPath {text : List Char} {uri : Uri}
    (hRead : readPath text = .ok uri) : uri.IsWithoutHash := by
  have hPath : '#' ∉ text.takeWhile fun c => c != '?' && c != '#' :=
    hash_not_mem_takeWhile (by decide) text
  unfold readPath at hRead
  dsimp only at hRead
  split at hRead
  · exact nomatch hRead
  · split at hRead
    · split at hRead
      · obtain rfl := Except.ok.inj hRead
        refine ⟨by simpa using hPath, ?_⟩
        rintro _ ⟨⟩
        simpa using hash_not_mem_takeWhile (p := (· != '#')) (by decide) _
      · exact nomatch hRead
    · obtain rfl := Except.ok.inj hRead
      exact ⟨by simpa using hPath, nofun⟩

theorem isWithoutHash_of_readPathAfterHost {text : List Char} {uri : Uri}
    (hRead : readPathAfterHost text = .ok uri) : uri.IsWithoutHash := by
  unfold readPathAfterHost at hRead
  cases hPath : readPath text with
  | error fault => simp [hPath, Except.map] at hRead
  | ok read =>
    have hWithout := isWithoutHash_of_readPath hPath
    rw [hPath] at hRead
    obtain rfl := Except.ok.inj hRead
    dsimp only
    split
    · exact ⟨show '#' ∉ "/".toList by decide, hWithout.query⟩
    · exact hWithout

theorem bind_eq_ok_iff {ε α β : Type} (result : Except ε α) (next : α → Except ε β) (value : β) :
    result >>= next = .ok value ↔ ∃ first, result = .ok first ∧ next first = .ok value := by
  cases result <;> simp [bind, Except.bind]

/-- Whatever form a target has, its path and its query end before a number sign. -/
theorem Uri.isWithoutHash_of_parse {text : String} {uri : Uri} (hParse : Uri.parse text = .ok uri) :
    uri.IsWithoutHash := by
  unfold Uri.parse at hParse
  split at hParse
  · exact nomatch hParse
  split at hParse
  · exact nomatch hParse
  · -- The star alone has no query.
    obtain rfl := Except.ok.inj hParse
    exact ⟨by decide, nofun⟩
  · exact isWithoutHash_of_readPath hParse
  · -- With no scheme the target is a host alone, and with a scheme a host and a path.
    obtain ⟨afterScheme, -, hRest⟩ := (bind_eq_ok_iff _ _ _).mp hParse
    cases afterScheme with
    | none =>
      obtain ⟨⟨authority, rest⟩, -, hAlone⟩ := (bind_eq_ok_iff _ _ _).mp hRest
      dsimp only at hAlone
      split at hAlone
      · exact nomatch hAlone
      · obtain rfl := Except.ok.inj hAlone
        exact ⟨by decide, nofun⟩
    | some rest =>
      obtain ⟨⟨authority, rest⟩, -, hHost⟩ := (bind_eq_ok_iff _ _ _).mp hRest
      dsimp only at hHost
      split at hHost
      · exact nomatch hHost
      · exact isWithoutHash_of_readPathAfterHost hHost

/-- A query without number signs that is read after a path is read whole. -/
theorem Uri.query_of_parse {query : String} (hFree : '#' ∉ query.toList) {uri : Uri}
    (hParse : Uri.parse ("/?" ++ query) = .ok uri) : uri.query = some query := by
  have hText : ("/?" ++ query).toList = '/' :: '?' :: query.toList := by
    rw [String.toList_append]
    rfl
  have hWhole : query.toList.takeWhile (· != '#') = query.toList :=
    List.takeWhile_eq_self_iff.mpr fun c hc => bne_iff_ne.mpr fun h => hFree (h ▸ hc)
  have hPath : ('/' :: '?' :: query.toList).takeWhile (fun c => c != '?' && c != '#') = ['/'] := rfl
  have hSlash : (! List.all ['/'] isPathChar) = false := by decide
  unfold Uri.parse at hParse
  rw [hText] at hParse
  split at hParse
  · exact nomatch hParse
  have hRead : readPath ('/' :: '?' :: query.toList) = .ok uri := hParse
  simp only [readPath, hPath, hSlash, Bool.false_eq_true, if_false, List.length_singleton,
    List.drop_succ_cons, List.drop_zero, hWhole, String.ofList_toList] at hRead
  split at hRead
  · obtain rfl := Except.ok.inj hRead
    rfl
  · exact nomatch hRead

end Http
end Switchboard
