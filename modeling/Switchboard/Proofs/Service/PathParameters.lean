import Switchboard.Proofs.Document.Record
import Switchboard.Proofs.Http.Form
import Switchboard.Proofs.Http.Pattern
import Switchboard.Proofs.Http.Uri
import Switchboard.Proofs.Service.Handling

/-!
# Path parameters in query strings

The parameters of a path are written behind the query string of the request, and both are read
together.  The pairs of the client stay as they are and come first (`exists_append_of_readPairs`),
and each parameter is read as its name and what its text stands for (`pairs_pathParameters`),
whatever characters are in the path.  A record takes a field from one pair at most, so a field that
the path names is taken from the path or the request is refused (`path_parameter_reaches_field`).

Names of parameters must hold no marks of query strings, and the type of the request is any that is
read as a record in which each field has a place of its own.  When two parameters have one name, or
the client uses it too, nothing is said about the fault that is reported.
-/

namespace Switchboard

open Catalogue (isSuccess_of_entryOf_eq_ok)
open Dispatch (Argument Handler Provider RequestType Token)
open Document (Field readDraft)
open Endpoint (Declaration)
open Http (FormFault FormValue Router formDialect percentDecoded)

namespace Service

variable {σ κ ρ ι : Type}

/-! ### Texts that parameters stand for -/

/-- A segment of the template is a parameter of this name. -/
def IsParameter (template : List String) (name : String) : Prop :=
  ":" ++ name ∈ template ∨ "*" ++ name ∈ template

/-- The text of a path that a parameter of a template stands for: the segment in the place of the
parameter, or with a star all that is left from there on. -/
inductive IsMatchedText : (template path : List String) → (name text : String) → Prop
  | segment (name text : String) (template path : List String) :
      IsMatchedText ((":" ++ name) :: template) (text :: path) name text
  | rest (name segment : String) (template path : List String) :
      IsMatchedText (("*" ++ name) :: template) (segment :: path) name
        (Text.glue '/' (segment :: path))
  | later {template path : List String} {name text : String} (part segment : String)
      (hMatched : IsMatchedText template path name text) :
      IsMatchedText (part :: template) (segment :: path) name text

theorem toList_colon (name : String) : (":" ++ name).toList = ':' :: name.toList := by
  rw [String.toList_append]
  rfl

theorem toList_star (name : String) : ("*" ++ name).toList = '*' :: name.toList := by
  rw [String.toList_append]
  rfl

theorem parameterPairs_colon (name segment : String) (template path : List String) :
    parameterPairs ((":" ++ name) :: template) (segment :: path) =
      pairText name.toList segment :: parameterPairs template path := by
  simp only [parameterPairs, toList_colon]

theorem parameterPairs_star (name segment : String) (template path : List String) :
    parameterPairs (("*" ++ name) :: template) (segment :: path) =
      [pairText name.toList (Text.glue '/' (segment :: path))] := by
  simp only [parameterPairs, toList_star]

theorem parameterPairs_plain {part : String} (hColon : ∀ name, part ≠ ":" ++ name)
    (hStar : ∀ name, part ≠ "*" ++ name) (segment : String) (template path : List String) :
    parameterPairs (part :: template) (segment :: path) = parameterPairs template path := by
  have hText : ∀ mark rest, part.toList = mark :: rest → mark ≠ ':' ∧ mark ≠ '*' := by
    intro mark rest hPart
    refine ⟨?_, ?_⟩
    · rintro rfl
      exact hColon (String.ofList rest) (String.toList_inj.mp (by simp [hPart]))
    · rintro rfl
      exact hStar (String.ofList rest) (String.toList_inj.mp (by simp [hPart]))
  simp only [parameterPairs]
  split
  · rename_i name hPart
    exact absurd rfl (hText _ _ hPart).1
  · rename_i name hPart
    exact absurd rfl (hText _ _ hPart).2
  · rfl

/-- A segment of a template is a parameter of one of two kinds, or none. -/
theorem part_cases (part : String) :
    (∃ name, part = ":" ++ name) ∨ (∃ name, part = "*" ++ name) ∨
      (∀ name, part ≠ ":" ++ name) ∧ ∀ name, part ≠ "*" ++ name := by
  by_cases hColon : ∃ name, part = ":" ++ name
  · exact Or.inl hColon
  by_cases hStar : ∃ name, part = "*" ++ name
  · exact Or.inr (Or.inl hStar)
  · exact Or.inr (Or.inr ⟨fun name h => hColon ⟨name, h⟩, fun name h => hStar ⟨name, h⟩⟩)

/-- Each pair that is written is that of a parameter with the text that it stands for. -/
theorem exists_of_mem_parameterPairs {template path : List String} {pair : String}
    (hPair : pair ∈ parameterPairs template path) :
    ∃ name text, pair = pairText name.toList text ∧ IsParameter template name ∧
      IsMatchedText template path name text := by
  induction template generalizing path with
  | nil => simp [parameterPairs] at hPair
  | cons part template ih =>
    cases path with
    | nil => simp [parameterPairs] at hPair
    | cons segment path =>
      have hLater : pair ∈ parameterPairs template path →
          ∃ name text, pair = pairText name.toList text ∧ IsParameter (part :: template) name ∧
            IsMatchedText (part :: template) (segment :: path) name text := by
        intro hMem
        obtain ⟨name, text, hText, hParameter, hMatched⟩ := ih hMem
        exact ⟨name, text, hText, hParameter.imp (List.mem_cons_of_mem _) (List.mem_cons_of_mem _),
          .later part segment hMatched⟩
      rcases part_cases part with ⟨name, rfl⟩ | ⟨name, rfl⟩ | ⟨hColon, hStar⟩
      · rw [parameterPairs_colon] at hPair
        rcases List.mem_cons.mp hPair with rfl | hMem
        · exact ⟨name, segment, rfl, Or.inl List.mem_cons_self, .segment ..⟩
        · exact hLater hMem
      · rw [parameterPairs_star, List.mem_singleton] at hPair
        exact ⟨name, _, hPair, Or.inr List.mem_cons_self, .rest ..⟩
      · rw [parameterPairs_plain hColon hStar] at hPair
        exact hLater hPair

/-- A star in a template is the last segment. -/
def StarsAreLast (template : List String) : Prop :=
  ∀ index name, template[index]? = some ("*" ++ name) → index + 1 = template.length

theorem StarsAreLast.tail {part : String} {template : List String}
    (hStars : StarsAreLast (part :: template)) : StarsAreLast template := fun index name hPart =>
  Nat.succ_injective (hStars (index + 1) name hPart)

/-- Each text that a parameter stands for is written as a pair. -/
theorem pairText_mem_parameterPairs {template path : List String} {name text : String}
    (hStars : StarsAreLast template) (hMatched : IsMatchedText template path name text) :
    pairText name.toList text ∈ parameterPairs template path := by
  induction hMatched with
  | segment name text template path =>
    rw [parameterPairs_colon]
    exact List.mem_cons_self
  | rest name segment template path =>
    rw [parameterPairs_star]
    exact List.mem_cons_self
  | @later template path name text part segment hMatched ih =>
    have hMem := ih hStars.tail
    rcases part_cases part with ⟨other, rfl⟩ | ⟨other, rfl⟩ | ⟨hColon, hStar⟩
    · rw [parameterPairs_colon]
      exact List.mem_cons_of_mem _ hMem
    · -- A star would be last, and then nothing is matched behind it.
      have hLast := hStars 0 other rfl
      obtain rfl : template = [] := by simpa using hLast
      exact nomatch hMatched
    · rwa [parameterPairs_plain hColon hStar]

/-- Each parameter stands for a text where the path has as many segments as the template. -/
theorem exists_isMatchedText {template path : List String} (hLength : template.length ≤ path.length)
    {name : String} (hParameter : IsParameter template name) :
    ∃ text, IsMatchedText template path name text := by
  induction template generalizing path with
  | nil => simp [IsParameter] at hParameter
  | cons part template ih =>
    cases path with
    | nil => simp at hLength
    | cons segment path =>
      have hLater : IsParameter template name →
          ∃ text, IsMatchedText (part :: template) (segment :: path) name text := by
        intro hParameter
        obtain ⟨text, hMatched⟩ := ih (by simpa using hLength) hParameter
        exact ⟨text, .later part segment hMatched⟩
      rcases hParameter with hMem | hMem
      · rcases List.mem_cons.mp hMem with rfl | hMem
        · exact ⟨segment, .segment ..⟩
        · exact hLater (Or.inl hMem)
      · rcases List.mem_cons.mp hMem with rfl | hMem
        · exact ⟨_, .rest ..⟩
        · exact hLater (Or.inr hMem)

theorem segments_eq (path : String) :
    Route.segments path = (Text.split (· == '/') path.toList).map String.ofList := rfl

theorem slash_not_mem_of_mem_split {cs piece : List Char}
    (hPiece : piece ∈ Text.split (· == '/') cs) : '/' ∉ piece := fun hMem => by
  simpa using Text.isSep_eq_false_of_mem_split (· == '/') cs hPiece hMem

/-- A template whose pattern matches a path has its stars at the end, and the path has a segment for
each of its segments. -/
theorem of_matchesPath {template path : String} {pattern : Http.Pattern}
    (hPattern : Http.Pattern.ofPath? template = some pattern)
    (hMatches : pattern.matchesPath path.toList = true) :
    StarsAreLast (Route.segments template) ∧
      (Route.segments template).length ≤ (Route.segments path).length := by
  have hRead : Http.Pattern.read? (Text.join '/' (Text.split (· == '/') template.toList)) =
      some pattern := by
    rw [Text.join_split]
    exact (Option.filter_eq_some_iff.mp hPattern).1
  have hPath : pattern.matchesPath (Text.join '/' (Text.split (· == '/') path.toList)) = true := by
    rw [Text.join_split]
    exact hMatches
  have hFits := Http.Pattern.fits_of_matchesPath (Text.split_ne_nil _ _)
    (fun _ => slash_not_mem_of_mem_split) hRead (Text.split_ne_nil _ _)
    (fun _ => slash_not_mem_of_mem_split) hPath
  refine ⟨fun index name hPart => ?_, by simpa [segments_eq] using hFits.length_le⟩
  rw [segments_eq, List.getElem?_map] at hPart
  obtain ⟨part, hPart, hText⟩ := Option.map_eq_some_iff.mp hPart
  have hStar : part = '*' :: name.toList := by
    rw [← toList_star, ← hText, String.toList_ofList]
  simpa [segments_eq] using
    hFits.star_last (fun _ => slash_not_mem_of_mem_split) (hPart.trans (congrArg some hStar))

/-- The template of a route to which a request leads has its stars at the end, and the path of the
request has a segment for each of its segments. -/
theorem of_isRouteFor {route : String × Endpoint.Method × Mount ρ} {method path : String}
    {headOnly : Bool} (hFor : Router.IsRouteFor route method path headOnly) :
    StarsAreLast (Route.segments route.1) ∧
      (Route.segments route.1).length ≤ (Route.segments path).length := by
  obtain ⟨pattern, hPattern, hMatches⟩ := hFor.fits
  exact of_matchesPath hPattern hMatches

/-! ### Parameters as pairs -/

/-- A name that no reading of a query string cuts or changes: letters, digits, underscores, hyphens
and whatever else is no mark there. -/
def IsPlainName (name : String) : Prop :=
  ∀ mark ∈ ['&', '=', '+', '%', '#'], mark ∉ name.toList

instance (name : String) : Decidable (IsPlainName name) :=
  List.decidableBAll _ _

/-- A name without the marks at which the pairs of a query string are cut and decoded.  Only in a
whole target the number sign is a mark too. -/
def IsUnmarkedName (name : String) : Prop :=
  ∀ mark ∈ ['&', '=', '+', '%'], mark ∉ name.toList

instance (name : String) : Decidable (IsUnmarkedName name) :=
  List.decidableBAll _ _

theorem IsPlainName.isUnmarkedName {name : String} (hName : IsPlainName name) :
    IsUnmarkedName name := fun mark hMark =>
  hName mark (List.mem_append_left ['#'] hMark)

/-- What is written for a character is that character, or one of those that escapes consist of. -/
theorem of_mem_escapeChar {c d : Char} (hMem : c ∈ escapeChar d) :
    (c = d ∧ c ∉ ['+', '&', '=']) ∨ c ∈ "%2B63D".toList := by
  have hPlus : "%2B".toList ⊆ "%2B63D".toList := by decide
  have hAmpersand : "%26".toList ⊆ "%2B63D".toList := by decide
  have hEquals : "%3D".toList ⊆ "%2B63D".toList := by decide
  unfold escapeChar at hMem
  split_ifs at hMem with h1 h2 h3
  · exact Or.inr (hPlus hMem)
  · exact Or.inr (hAmpersand hMem)
  · exact Or.inr (hEquals hMem)
  · obtain rfl := List.mem_singleton.mp hMem
    exact Or.inl ⟨rfl, by simp [h1, h2, h3]⟩

theorem of_mem_escapeValue {c : Char} {value : String} (hMem : c ∈ (escapeValue value).toList) :
    (c ∈ value.toList ∧ c ∉ ['+', '&', '=']) ∨ c ∈ "%2B63D".toList := by
  rw [escapeValue, String.toList_ofList] at hMem
  obtain ⟨d, hd, hEscape⟩ := List.mem_flatMap.mp hMem
  rcases of_mem_escapeChar hEscape with ⟨rfl, hOther⟩ | hEscaped
  · exact Or.inl ⟨hd, hOther⟩
  · exact Or.inr hEscaped

/-- Neither marks between pairs nor plus signs are left in an escaped value. -/
theorem mark_not_mem_escapeValue {mark : Char} (hMark : mark ∈ ['+', '&', '=']) (value : String) :
    mark ∉ (escapeValue value).toList := by
  intro hMem
  rcases of_mem_escapeValue hMem with ⟨-, hOther⟩ | hEscaped
  · exact hOther hMark
  · simp only [List.mem_cons, List.not_mem_nil, or_false] at hMark
    rcases hMark with rfl | rfl | rfl
    · exact absurd hEscaped (by decide)
    · exact absurd hEscaped (by decide)
    · exact absurd hEscaped (by decide)

/-- Escaping the characters of a text is escaping its octets. -/
theorem octets_escapeChar (c : Char) :
    Http.octets (escapeChar c) = (Http.octets [c]).flatMap Http.escapeOctet := by
  by_cases hPlus : c = '+'
  · subst hPlus
    rfl
  by_cases hAmpersand : c = '&'
  · subst hAmpersand
    rfl
  by_cases hEquals : c = '='
  · subst hEquals
    rfl
  have hSame : ∀ octet ∈ Http.octets [c], Http.escapeOctet octet = [octet] := by
    intro octet hOctet
    have hNe : ∀ mark : Char, mark.toNat < 0x80 → c ≠ mark → octet ≠ UInt8.ofNat mark.toNat :=
      fun mark hAscii hNe h =>
        Http.ofNat_not_mem_octets hAscii (mt List.mem_singleton.mp (Ne.symm hNe)) (h ▸ hOctet)
    have hNotPlus : octet ≠ 0x2B := hNe '+' (by decide) hPlus
    have hNotAmpersand : octet ≠ 0x26 := hNe '&' (by decide) hAmpersand
    have hNotEquals : octet ≠ 0x3D := hNe '=' (by decide) hEquals
    rw [Http.escapeOctet, if_neg hNotPlus, if_neg hNotAmpersand, if_neg hNotEquals]
  rw [escapeChar, if_neg hPlus, if_neg hAmpersand, if_neg hEquals]
  have hMap := List.flatMap_congr hSame
  rw [hMap]
  simp

theorem octets_escapeValue (value : String) :
    Http.octets (escapeValue value).toList =
      (Http.octets value.toList).flatMap Http.escapeOctet := by
  rw [escapeValue, String.toList_ofList]
  induction value.toList with
  | nil => rfl
  | cons c cs ih =>
    have hHead := octets_escapeChar c
    simp only [Http.octets, List.flatMap_cons, List.flatMap_append, List.flatMap_nil,
      List.append_nil] at hHead ih ⊢
    rw [hHead, ih]

/-- An escaped value stands for what the text in the path stands for. -/
theorem decodePart_escapeValue (value : String) :
    Http.decodePart (escapeValue value).toList = percentDecoded value := by
  have hBlanked : ((escapeValue value).toList.map fun c => if c == '+' then ' ' else c) =
      (escapeValue value).toList := by
    refine (List.map_congr_left fun c hc => ?_).trans (List.map_id _)
    have hNe : c ≠ '+' := fun h => mark_not_mem_escapeValue (by decide) value (h ▸ hc)
    simp [hNe]
  simp only [Http.decodePart, hBlanked, octets_escapeValue, Http.percentDecode_flatMap_escapeOctet,
    percentDecoded]

/-- The pair that is written for a parameter is read as its name and what its text stands for. -/
theorem pairs_pairText {name : String} (hName : IsUnmarkedName name) (value : String) :
    Http.pairs (pairText name.toList value) = [(name, percentDecoded value)] := by
  have hText : pairText name.toList value =
      String.ofList (name.toList ++ '=' :: (escapeValue value).toList) := by
    rw [← String.toList_inj]
    simp [pairText]
  rw [hText, Http.pairs_pair (hName '&' (by decide)) (hName '=' (by decide))
    (mark_not_mem_escapeValue (by decide) value),
    Http.decodePart_eq_self (hName '+' (by decide)) (hName '%' (by decide)),
    decodePart_escapeValue, String.ofList_toList]

/-! ### Queries read together -/

theorem mem_of_mem_segments {path segment : String} (hSegment : segment ∈ Route.segments path)
    {c : Char} (hMem : c ∈ segment.toList) : c ∈ path.toList := by
  rw [segments_eq] at hSegment
  obtain ⟨piece, hPiece, rfl⟩ := List.mem_map.mp hSegment
  rw [String.toList_ofList] at hMem
  rw [← Text.join_split '/' path.toList]
  exact Text.subset_join hPiece hMem

/-- A parameter stands for characters of the path only. -/
theorem IsMatchedText.of_mem {template path : List String} {name text : String}
    (hMatched : IsMatchedText template path name text) {c : Char} (hMem : c ∈ text.toList) :
    c = '/' ∨ ∃ segment ∈ path, c ∈ segment.toList := by
  induction hMatched with
  | segment name text template path => exact Or.inr ⟨text, List.mem_cons_self, hMem⟩
  | rest name segment template path => exact Text.mem_glue hMem
  | later part segment _ ih =>
    refine (ih hMem).imp_right ?_
    rintro ⟨other, hOther, hc⟩
    exact ⟨other, List.mem_cons_of_mem _ hOther, hc⟩

theorem hash_not_mem_pathParameters {mounted path : String}
    (hNames : ∀ name, IsParameter (Route.segments mounted) name → IsPlainName name)
    (hPath : '#' ∉ path.toList) : '#' ∉ (pathParameters mounted path).toList := by
  intro hMem
  rcases Text.mem_glue hMem with hSep | ⟨pair, hPair, hMem⟩
  · exact absurd hSep (by decide)
  obtain ⟨name, text, rfl, hParameter, hMatched⟩ := exists_of_mem_parameterPairs hPair
  have hName : '#' ∉ name.toList := hNames name hParameter '#' (by decide)
  simp only [pairText, String.toList_append, String.toList_ofList, List.mem_append] at hMem
  rcases hMem with (hMem | hMem) | hMem
  · exact hName hMem
  · exact absurd hMem (by decide)
  · rcases of_mem_escapeValue hMem with ⟨hText, -⟩ | hEscaped
    · rcases hMatched.of_mem hText with hSlash | ⟨segment, hSegment, hc⟩
      · exact absurd hSlash (by decide)
      · exact hPath (mem_of_mem_segments hSegment hc)
    · exact absurd hEscaped (by decide)

theorem pairs_joinQueries (queries : List String) :
    Http.pairs (joinQueries queries) = queries.flatMap Http.pairs := by
  rw [joinQueries, Http.pairs_glue]
  induction queries with
  | nil => rfl
  | cons query queries ih =>
    by_cases hEmpty : query.isEmpty = true
    · have hNone : Http.pairs query = [] := by
        rw [String.isEmpty_iff.mp hEmpty]
        rfl
      simp [hEmpty, ih, hNone]
    · simp [hEmpty, ih]

/-- The pairs of the parameters are read as their names and what their texts stand for. -/
theorem pairs_pathParameters {mounted path : String}
    (hNames : ∀ name, IsParameter (Route.segments mounted) name → IsPlainName name) :
    ∀ pair ∈ Http.pairs (pathParameters mounted path), ∃ text,
      IsMatchedText (Route.segments mounted) (Route.segments path) pair.1 text ∧
        pair.2 = percentDecoded text := by
  intro pair hPair
  rw [pathParameters, Http.pairs_glue] at hPair
  obtain ⟨written, hWritten, hRead⟩ := List.mem_flatMap.mp hPair
  obtain ⟨name, text, rfl, hParameter, hMatched⟩ := exists_of_mem_parameterPairs hWritten
  rw [pairs_pairText (hNames name hParameter).isUnmarkedName, List.mem_singleton] at hRead
  subst hRead
  exact ⟨text, hMatched, rfl⟩

theorem mem_pairs_pathParameters {mounted path : String}
    (hNames : ∀ name, IsParameter (Route.segments mounted) name → IsPlainName name)
    (hStars : StarsAreLast (Route.segments mounted)) {name text : String}
    (hParameter : IsParameter (Route.segments mounted) name)
    (hMatched : IsMatchedText (Route.segments mounted) (Route.segments path) name text) :
    (name, percentDecoded text) ∈ Http.pairs (pathParameters mounted path) := by
  rw [pathParameters, Http.pairs_glue]
  refine List.mem_flatMap.mpr ⟨_, pairText_mem_parameterPairs hStars hMatched, ?_⟩
  rw [pairs_pairText (hNames name hParameter).isUnmarkedName]
  exact List.mem_singleton_self _

theorem eq_pairs_of_readPairs {query : String} (hFree : '#' ∉ query.toList)
    {pairs : List (String × String)} (hRead : readPairs query = .ok pairs) :
    pairs = Http.pairs query := by
  unfold readPairs at hRead
  cases hUri : Http.Uri.parse ("/?" ++ query) with
  | error fault => simp [hUri, Except.map] at hRead
  | ok uri =>
    have hQuery := Http.Uri.query_of_parse hFree hUri
    rw [hUri] at hRead
    have hPairs : Http.pairs (uri.query.getD "") = pairs := Except.ok.inj hRead
    rw [← hPairs, hQuery]
    rfl

theorem isWithoutHash_of_of? {method uri body : String} {headers : List (String × String)}
    {request : Http.Request} (hRequest : Http.Request.of? method uri headers body = some request) :
    request.uri.IsWithoutHash := by
  unfold Http.Request.of? at hRequest
  split at hRequest
  · exact nomatch hRequest
  · rename_i target hTarget
    split at hRequest
    · obtain rfl := Option.some.inj hRequest
      exact Http.Uri.isWithoutHash_of_parse hTarget
    · exact nomatch hRequest

/-! ### Fields that the path gives -/

variable {δ α : Type}

/-- Of the pairs that are read as a record, one at most gives a field, and the field is what this
pair's value is read as. -/
theorem get_of_readDraft {record : String} {fields : List (Field FormValue FormFault δ)}
    {field : Field FormValue FormFault δ} {get : δ → Option α}
    {decode : FormValue → Except FormFault α} (hGoverns : field.Governs fields get decode)
    {empty draft : δ} {pairs : List (String × String)}
    (hRead : readDraft formDialect record fields empty (.pairs pairs) = .ok draft)
    {pair : String × String} (hMem : pair ∈ pairs) (hKey : field.hasKey pair.1 = true) :
    pairs.filter (fun other => field.hasKey other.1) = [pair] ∧
      ∃ a, decode (.text pair.2) = .ok a ∧ get draft = some a := by
  let entryOf : String × String → String × FormValue := fun other => (other.1, .text other.2)
  have hEntries : (pairs.map entryOf).foldlM (Document.readEntry formDialect fields) empty =
      .ok draft := hRead
  have hFilter : (pairs.map entryOf).filter (fun entry => field.hasKey entry.1) =
      (pairs.filter fun other => field.hasKey other.1).map entryOf := List.filter_map
  have hOwn : pair ∈ pairs.filter fun other => field.hasKey other.1 :=
    List.mem_filter.mpr ⟨hMem, hKey⟩
  rcases hGoverns.get_of_readEntries hEntries with ⟨hNone, -⟩ | ⟨-, entry, a, hOne, hDecode, hGet⟩
  · rw [hFilter, List.map_eq_nil_iff] at hNone
    exact nomatch hNone ▸ hOwn
  · rw [hFilter, List.map_eq_singleton_iff] at hOne
    obtain ⟨other, hOther, rfl⟩ := hOne
    obtain rfl : pair = other := List.mem_singleton.mp (hOther ▸ hOwn)
    exact ⟨hOther, a, hDecode, hGet⟩

/-- The segments of a mounted path. -/
def Mount.template (mount : Mount ρ) : List String :=
  Route.segments (Route.mounted mount.route.path)

/-- The query string of a request with the parameters of its path behind it. -/
def Mount.fullQuery (mount : Mount ρ) (request : Http.Request) : String :=
  joinQueries [request.uri.query.getD "",
    pathParameters (Route.mounted mount.route.path) request.uri.path]

variable {mount : Mount ρ}

/-- The pairs of the client come first and as they are, and then those of the path. -/
theorem exists_append_of_readPairs
    (hNames : ∀ name, IsParameter mount.template name → IsPlainName name) {request : Http.Request}
    (hHash : request.uri.IsWithoutHash) {pairs : List (String × String)}
    (hRead : readPairs (mount.fullQuery request) = .ok pairs) :
    pairs = Http.pairs (request.uri.query.getD "") ++
      Http.pairs (pathParameters (Route.mounted mount.route.path) request.uri.path) := by
  have hParameters : '#' ∉
      (pathParameters (Route.mounted mount.route.path) request.uri.path).toList :=
    hash_not_mem_pathParameters hNames hHash.path
  have hClient : '#' ∉ (request.uri.query.getD "").toList := by
    cases hQuery : request.uri.query with
    | none => exact nofun
    | some query => exact hHash.query query hQuery
  -- Without number signs the whole of the joined query is read back.
  have hFree : '#' ∉ (mount.fullQuery request).toList := by
    intro hMem
    rcases Text.mem_glue hMem with hSep | ⟨query, hQuery, hMem⟩
    · exact absurd hSep (by decide)
    · have hOne := List.mem_of_mem_filter hQuery
      simp only [List.mem_cons, List.not_mem_nil, or_false] at hOne
      rcases hOne with rfl | rfl
      · exact hClient hMem
      · exact hParameters hMem
  rw [eq_pairs_of_readPairs hFree hRead, Mount.fullQuery, pairs_joinQueries]
  simp

variable {routePrefix : String} {provider : Provider σ κ ι} {isCancelled : Token → σ → Bool}
  {parts : List (Declaration × Handler σ ρ ι)} {service : Service σ κ ρ ι}

/-- **A field that the path names is given by the path.**  If the handler of a route is started for
a request, the field was read from what the text in the path stands for, and no other pair gives it.
What the client has written in the query string is read pair by pair as without the parameters. -/
theorem path_parameter_reaches_field
    (hService : assemble routePrefix provider isCancelled
      (parts.map fun part => .of part.1 part.2) = .ok service)
    {router : Router (Mount ρ)} (hRouter : service.router? = some router)
    {method uri body : String} {headers : List (String × String)} {request : Http.Request}
    (hRequest : Http.Request.of? method uri headers body = some request) {headOnly : Bool}
    (hRoute : router.route request.method request.uri.path = .found mount headOnly)
    (hSource : mount.route.source = .query)
    (hNames : ∀ name, IsParameter mount.template name → IsPlainName name) :
    (∀ pairs, readPairs (mount.fullQuery request) = .ok pairs →
      ∃ own, pairs = Http.pairs (request.uri.query.getD "") ++ own ∧
        ∀ pair ∈ own, ∃ text,
          IsMatchedText mount.template (Route.segments request.uri.path) pair.1 text ∧
            pair.2 = percentDecoded text) ∧
      ∀ (record : String) (fields : List (Field FormValue FormFault δ)) (empty : δ)
        (finish : δ → Except FormFault ρ),
        (∀ value, mount.intake.ofForm value =
          (readDraft formDialect record fields empty value).bind finish) →
        ∀ (field : Field FormValue FormFault δ) (get : δ → Option α)
          (decode : FormValue → Except FormFault α), field.Governs fields get decode →
        ∀ name, IsParameter mount.template name → field.hasKey name = true →
        ∀ (host : Host σ) (state : σ),
          .started ∈ (service.watched.handle host.watched router request (state, [])).2.2 →
          ∃ part ∈ parts, ∃ entry, Catalogue.entryOf routePrefix part.1 = .ok entry ∧
            mount = ⟨entry.route, part.2.request⟩ ∧
            ∃ contents arguments ready pairs draft text a,
              service.Starts host part.2 contents state arguments ready ∧
              readPairs (mount.fullQuery request) = .ok pairs ∧
              readDraft formDialect record fields empty (.pairs pairs) = .ok draft ∧
              finish draft = .ok contents ∧
              IsMatchedText mount.template (Route.segments request.uri.path) name text ∧
              pairs.filter (fun pair => field.hasKey pair.1) = [(name, percentDecoded text)] ∧
              decode (.text (percentDecoded text)) = .ok a ∧ get draft = some a := by
  have hHash := isWithoutHash_of_of? hRequest
  obtain ⟨hMount, hFor⟩ := isRouteFor_of_route_eq_found hRouter hRoute
  obtain ⟨hStars, hLength⟩ := of_isRouteFor hFor
  refine ⟨fun pairs hRead => ⟨_, exists_append_of_readPairs hNames hHash hRead,
    pairs_pathParameters hNames⟩, ?_⟩
  intro record fields empty finish hForm field get decode hGoverns name hParameter hKey host state
    hStarted
  obtain ⟨part, hPart, entry, hEntry, hSame, hFound⟩ := exists_part_of_mem_mounts hService hMount
  have hSuccess : mount.route.success.isSuccess = true := by
    rw [hSame]
    exact isSuccess_of_entryOf_eq_ok hEntry
  obtain ⟨response, final, deeds, -, hWatched, hGuards⟩ :=
    exists_guards hFound hSuccess host request state
  have hDeeds : .started ∈ deeds := by
    simpa only [handle, hRoute, hWatched] using hStarted
  obtain ⟨contents, arguments, ready, hAccepted, hStarts⟩ := hGuards.started_iff.mp hDeeds
  cases hAccepted.read with
  | fromBody hBody => exact absurd (hSource.symm.trans hBody) (by decide)
  | @fromQuery pairs _ hPairs hContents =>
    have hAppend := exists_append_of_readPairs hNames hHash hPairs
    obtain ⟨text, hMatched⟩ := exists_isMatchedText hLength hParameter
    have hMem : (name, percentDecoded text) ∈ pairs := by
      rw [hAppend]
      exact List.mem_append_right _ (mem_pairs_pathParameters hNames hStars hParameter hMatched)
    rw [hForm] at hContents
    obtain ⟨draft, hDraft, hFinish⟩ := (Http.bind_eq_ok_iff _ _ _).mp hContents
    obtain ⟨hOnly, a, hDecode, hGet⟩ := get_of_readDraft hGoverns hDraft hMem hKey
    exact ⟨part, hPart, entry, hEntry, hSame, contents, arguments, ready, pairs, draft, text, a,
      hStarts, hPairs, hDraft, hFinish, hMatched, hOnly, hDecode, hGet⟩

/-! ### A parameter of the sample world -/

/-- A query for a greeting of the visitor whom the path names. -/
def greetNamed : Declaration := greetVisitor.withRoute "{name}"

def assembleNamed : Except AssemblyFault Sample.SampleService :=
  assemble "" (Sample.provider .empty {}) Sample.State.isCancelled
    ([(greetNamed, Sample.greeter ['r'])].map fun part => .of part.1 part.2)

/-- The name of a visitor as form data gives it. -/
def nameField : Field FormValue FormFault Sample.NameDraft :=
  .of "name" false (·.name) (fun a draft => { draft with name := some a }) formDialect.text

/-- The greeting of the visitor with the name. -/
def finishNamed (draft : Sample.NameDraft) : Except FormFault Sample.Contents := do
  let name ← Document.required formDialect "name" draft.name
  return .greet name

theorem nameField_governs : nameField.Governs [nameField] (·.name) formDialect.text where
  mem := List.mem_singleton_self _
  isSet_eq _ := rfl
  own := Field.get_of_read_of "name" false fun _ _ => rfl
  others _ hOther := Or.inl (List.mem_singleton.mp hOther)

/-- The segments at which the greeting of a named visitor is mounted. -/
def namedTemplate : List String := ["", "visitors", ":name"]

theorem eq_name_of_isParameter {name : String} (hParameter : IsParameter namedTemplate name) :
    name = "name" := by
  have hHead : ∀ {c : Char} {text : String}, text ∈ namedTemplate →
      text.toList = c :: name.toList → c = ':' ∨ c = '*' → name = "name" := by
    intro c text hMem hText hMark
    simp only [namedTemplate, List.mem_cons, List.not_mem_nil, or_false] at hMem
    rcases hMem with rfl | rfl | rfl
    · exact nomatch hText
    · obtain ⟨rfl, -⟩ := List.cons.inj hText
      exact absurd hMark (by decide)
    · exact String.toList_inj.mp (List.cons.inj hText).2.symm
  rcases hParameter with hColon | hStar
  · exact hHead hColon (toList_colon name) (Or.inl rfl)
  · exact hHead hStar (toList_star name) (Or.inr rfl)

/-- A visit of Ada L, whose name is written with an escape, with a further pair of the client. -/
def namedVisit : Http.Request :=
  ⟨"GET", ⟨"/visitors/Ada%20L", some "page=%32"⟩, [], ""⟩

theorem of?_namedVisit :
    Http.Request.of? "GET" "/visitors/Ada%20L?page=%32" [] "" = some namedVisit := by
  decide +kernel

/-- The visitor is greeted by the name in the path. -/
theorem sample_path_parameter_reaches_field :
    ∃ service router arguments ready, assembleNamed = .ok service ∧
      service.router? = some router ∧
      service.Starts Sample.host (Sample.greeter ['r']) (.greet "Ada L") .empty arguments
        ready := by
  have hHolds : holdsOfAssembled assembleNamed (fun service router =>
      (router.route "GET" "/visitors/Ada%20L").found?.any fun found =>
        found.1.route.source == .query && found.1.template == namedTemplate &&
          (readPairs (found.1.fullQuery namedVisit)).toOption ==
            some [("page", "2"), ("name", "Ada L")] &&
          (service.watched.handle Sample.host.watched router namedVisit (.empty, [])).2.2.contains
            .started) = true := by
    decide +kernel
  obtain ⟨service, router, hService, hRouter, hCheck⟩ := exists_of_holdsOfAssembled hHolds
  obtain ⟨⟨mount, headOnly⟩, hFound, hVisit⟩ := (Option.any_eq_true _ _).mp hCheck
  have hRoute := Http.Routing.eq_found_of_found? hFound
  simp only [Bool.and_eq_true, beq_iff_eq, List.contains_iff_mem] at hVisit
  obtain ⟨⟨⟨hSource, hTemplate⟩, hPairs⟩, hStarted⟩ := hVisit
  have hNames : ∀ name, IsParameter mount.template name → IsPlainName name := by
    rw [hTemplate]
    intro name hParameter
    rw [eq_name_of_isParameter hParameter]
    decide
  have hParameter : IsParameter mount.template "name" := by
    rw [hTemplate]
    exact Or.inl (by decide)
  obtain ⟨part, hPart, entry, -, rfl, -⟩ :=
    exists_part_of_mem_mounts hService (isRouteFor_of_route_eq_found hRouter hRoute).1
  obtain rfl := List.mem_singleton.mp hPart
  obtain ⟨-, hReaches⟩ := path_parameter_reaches_field hService hRouter of?_namedVisit hRoute
    hSource hNames
  obtain ⟨other, hOther, -, -, -, contents, arguments, ready, pairs, draft, text, a, hStarts,
    hRead, -, hFinish, -, hOnly, hDecode, hGet⟩ :=
    hReaches "Greet" [nameField] {} finishNamed (fun _ => rfl) nameField (·.name)
      formDialect.text nameField_governs "name" hParameter rfl Sample.host .empty hStarted
  obtain rfl := List.mem_singleton.mp hOther
  have hRead : pairs = [("page", "2"), ("name", "Ada L")] := by
    rw [hRead] at hPairs
    exact Option.some.inj hPairs
  have hText : percentDecoded text = "Ada L" := by
    rw [hRead] at hOnly
    exact (congrArg (fun pairs => (pairs.getD 0 ("", "")).2) hOnly).symm
  obtain rfl : percentDecoded text = a := Except.ok.inj hDecode
  have hContents : finishNamed draft = .ok (.greet "Ada L") := by
    rw [finishNamed, hGet, hText]
    rfl
  obtain rfl : contents = .greet "Ada L" := Except.ok.inj (hFinish.symm.trans hContents)
  exact ⟨service, router, arguments, ready, hService, hRouter, hStarts⟩

end Service
end Switchboard
