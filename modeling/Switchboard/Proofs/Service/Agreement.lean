import Switchboard.Proofs.Service.Capturing
import Switchboard.Proofs.Service.Filling
import Switchboard.Proofs.Service.TextRequests

/-!
# One request from a body and from a query string

The parameters of a path reach a request in two ways: as fields that are added to a body, and as pairs
behind a query string.  Where there is nothing else in the body or the query string, a request that is
a record of texts is read from both as the same, or from neither
(`body_and_query_give_one_request`).

The texts of the parameters are written into one query string, which both ways read.  From then on they
hold the same texts under the same names, the one as an object in the order of the names and the other
as pairs in the order of the path, and a record of texts is read from either as from the texts
(`Document.TextRecord.toOption_read`).
-/

namespace Switchboard

open Catalogue (Binding Source)
open Dispatch (RequestType)
open Document (HoldTexts TextRecord)
open Http (FormValue formDialect percentDecoded)
open Json (IsAscending find?_key_eq_some_iff find?_ordered ordered)
open Route (mounted mountedSegment parameter? parameters segments)

namespace Service

variable {ρ : Type}

/-! ### The texts of parameters -/

/-- A name in a template is that of a parameter. -/
theorem exists_parameter_of_isParameter {route name : String}
    (hParameter : IsParameter (segments (mounted route)) name) :
    ∃ parameter ∈ parameters route, parameter.name = name := by
  rw [← Route.parameters_mounted route]
  rcases hParameter with hMem | hMem
  · have hSome := Route.parameter?_colon name
    have hMounted := Route.mountedSegment_of_mem_segments_mounted hMem
    exact ⟨_, List.mem_filterMap.mpr ⟨_, hMem, hSome⟩, Route.name_eq_of_mounted hMounted hSome rfl⟩
  · have hSome := Route.parameter?_star name
    have hMounted := Route.mountedSegment_of_mem_segments_mounted hMem
    exact ⟨_, List.mem_filterMap.mpr ⟨_, hMem, hSome⟩, Route.name_eq_of_mounted hMounted hSome rfl⟩

/-- A segment in its mounted form without a mark in front is no parameter. -/
theorem parameter?_eq_none_of_mounted {part : String} (hMounted : mountedSegment part = part)
    (hColon : ∀ name, part ≠ ":" ++ name) (hStar : ∀ name, part ≠ "*" ++ name) :
    parameter? part = none := by
  cases hSome : parameter? part with
  | none => rfl
  | some parameter =>
      rw [Route.mountedSegment_of_parameter? hSome] at hMounted
      cases hCatchAll : parameter.catchAll with
      | true =>
          rw [hCatchAll, if_pos rfl] at hMounted
          exact absurd hMounted.symm (hStar parameter.name)
      | false =>
          rw [hCatchAll, if_neg (by decide)] at hMounted
          exact absurd hMounted.symm (hColon parameter.name)

/-- The pairs that are written are those of the parameters in order, each with a text that it stands
for. -/
theorem exists_parameterTexts {template path : List String}
    (hMounted : ∀ part ∈ template, mountedSegment part = part) (hStars : StarsAreLast template)
    (hLength : template.length ≤ path.length) :
    ∃ captured : List (String × String),
      parameterPairs template path = captured.map (fun pair => pairText pair.1.toList pair.2) ∧
      captured.map (·.1) = (template.filterMap parameter?).map (·.name) ∧
      ∀ pair ∈ captured, IsMatchedText template path pair.1 pair.2 := by
  induction template generalizing path with
  | nil => exact ⟨[], by simp [parameterPairs], rfl, nofun⟩
  | cons part template ih =>
      obtain ⟨hOwn, hOthers⟩ := List.forall_mem_cons.mp hMounted
      obtain ⟨segment, path, rfl⟩ := List.exists_cons_of_length_pos
        (Nat.lt_of_lt_of_le (Nat.succ_pos _) hLength)
      obtain ⟨captured, hPairs, hNames, hTexts⟩ :=
        ih hOthers hStars.tail (Nat.le_of_succ_le_succ hLength)
      have hLater : ∀ pair ∈ captured,
          IsMatchedText (part :: template) (segment :: path) pair.1 pair.2 :=
        fun pair hPair => .later part segment (hTexts pair hPair)
      rcases part_cases part with ⟨name, rfl⟩ | ⟨name, rfl⟩ | ⟨hColon, hStar⟩
      · have hSome := Route.parameter?_colon name
        have hName := Route.name_eq_of_mounted hOwn hSome rfl
        refine ⟨(name, segment) :: captured, ?_, ?_, List.forall_mem_cons.mpr ⟨.segment .., hLater⟩⟩
        · rw [parameterPairs_colon, hPairs, List.map_cons]
        · rw [List.filterMap_cons_some hSome, List.map_cons, List.map_cons, hNames, hName]
      · have hSome := Route.parameter?_star name
        have hName := Route.name_eq_of_mounted hOwn hSome rfl
        -- A star is the last segment, so there are no parameters behind it.
        obtain rfl : template = [] := by simpa using hStars 0 name rfl
        refine ⟨[(name, Text.glue '/' (segment :: path))], ?_, ?_,
          List.forall_mem_singleton.mpr (.rest ..)⟩
        · rw [parameterPairs_star, List.map_singleton]
        · rw [List.filterMap_cons_some hSome, List.filterMap_nil, List.map_singleton,
            List.map_singleton, hName]
      · have hNone := parameter?_eq_none_of_mounted hOwn hColon hStar
        refine ⟨captured, ?_, ?_, hLater⟩
        · rw [parameterPairs_plain hColon hStar, hPairs]
        · rw [List.filterMap_cons_none hNone, hNames]

/-- Where the query string of the parameters can be read, its pairs are the parameters in order, each
with what a text that it stands for says. -/
theorem exists_captured {route path : String}
    (hPlain : ∀ parameter ∈ parameters route, IsPlainName parameter.name) {pattern : Http.Pattern}
    (hPattern : Http.Pattern.ofPath? (mounted route) = some pattern)
    (hMatches : pattern.matchesPath path.toList = true) (hHash : '#' ∉ path.toList) :
    ∃ captured : List (String × String),
      captured.map (·.1) = (parameters route).map (·.name) ∧
      (∀ pair ∈ captured,
        IsMatchedText (segments (mounted route)) (segments path) pair.1 pair.2) ∧
      ∀ pairs, readPairs (pathParameters (mounted route) path) = .ok pairs →
        pairs = captured.map fun pair => (pair.1, percentDecoded pair.2) := by
  obtain ⟨hStars, hLength⟩ := of_matchesPath hPattern hMatches
  obtain ⟨captured, hPairs, hNames, hTexts⟩ := exists_parameterTexts
    (fun _ => Route.mountedSegment_of_mem_segments_mounted) hStars hLength
  have hOwn : captured.map (·.1) = (parameters route).map (·.name) := by
    rw [← Route.parameters_mounted route]
    exact hNames
  have hUnmarked : ∀ pair ∈ captured, IsUnmarkedName pair.1 := by
    intro pair hPair
    have hName : pair.1 ∈ (parameters route).map (·.name) := hOwn ▸ List.mem_map_of_mem hPair
    obtain ⟨parameter, hParameter, hEq⟩ := List.mem_map.mp hName
    exact hEq ▸ (hPlain parameter hParameter).isUnmarkedName
  have hFree : '#' ∉ (pathParameters (mounted route) path).toList := by
    refine hash_not_mem_pathParameters (fun name hParameter => ?_) hHash
    obtain ⟨parameter, hMem, rfl⟩ := exists_parameter_of_isParameter hParameter
    exact hPlain parameter hMem
  refine ⟨captured, hOwn, hTexts, fun pairs hRead => ?_⟩
  rw [eq_pairs_of_readPairs hFree hRead, pathParameters, hPairs, pairs_glue_pairTexts hUnmarked]

/-! ### Two documents with the same texts -/

/-- The text that pairs give to a name. -/
def textOf? (pairs : List (String × String)) (name : String) : Option String :=
  (pairs.find? (·.1 == name)).map (·.2)

variable {pairs : List (String × String)}

theorem textOf?_of_mem (hNames : (pairs.map (·.1)).Nodup) {pair : String × String}
    (hPair : pair ∈ pairs) : textOf? pairs pair.1 = some pair.2 := by
  rw [textOf?, (find?_key_eq_some_iff hNames pair).mpr hPair, Option.map_some]

theorem textOf?_eq_none {name : String} (hName : name ∉ pairs.map (·.1)) :
    textOf? pairs name = none := by
  have hNone : pairs.find? (·.1 == name) = none :=
    List.find?_eq_none.mpr fun pair hPair hSame =>
      hName (beq_iff_eq.mp hSame ▸ List.mem_map_of_mem hPair)
  rw [textOf?, hNone, Option.map_none]

/-- Under each captured name there is what its text stands for. -/
theorem exists_textOf?_decoded {captured : List (String × String)}
    (hNames : (captured.map (·.1)).Nodup) {name : String} (hName : name ∈ captured.map (·.1)) :
    ∃ text, (name, text) ∈ captured ∧
      textOf? (captured.map fun pair => (pair.1, percentDecoded pair.2)) name =
        some (percentDecoded text) := by
  obtain ⟨pair, hPair, rfl⟩ := List.mem_map.mp hName
  have hDecoded : ((captured.map fun pair => (pair.1, percentDecoded pair.2)).map (·.1)).Nodup := by
    simpa only [List.map_map, Function.comp_def] using hNames
  exact ⟨pair.2, hPair, textOf?_of_mem hDecoded
    (List.mem_map_of_mem (f := fun pair => (pair.1, percentDecoded pair.2)) hPair)⟩

theorem holdTexts_form (hNames : (pairs.map (·.1)).Nodup) :
    HoldTexts formDialect (pairs.map fun (name, value) => (name, .text value)) (textOf? pairs) where
  keys_nodup := by simpa only [List.map_map, Function.comp_def] using hNames
  isText entry hEntry := by
    obtain ⟨pair, -, rfl⟩ := List.mem_map.mp hEntry
    exact ⟨⟨pair.2, rfl⟩, rfl⟩
  find?_eq name := by
    simp only [List.find?_map, Function.comp_def, textOf?]
    cases pairs.find? (·.1 == name) <;> rfl

/-- Where no name comes twice, the last pair of a name is the first. -/
theorem find?_reverse_of_nodup (hNames : (pairs.map (·.1)).Nodup) (name : String) :
    pairs.reverse.find? (·.1 == name) = pairs.find? (·.1 == name) := by
  have hReverse : (pairs.reverse.map (·.1)).Nodup := by
    rwa [List.map_reverse, List.nodup_reverse]
  ext pair
  by_cases hName : pair.1 = name
  · subst hName
    rw [find?_key_eq_some_iff hReverse, find?_key_eq_some_iff hNames, List.mem_reverse]
  · refine iff_of_false (fun hFind => hName ?_) fun hFind => hName ?_
    · simpa using List.find?_some hFind
    · simpa using List.find?_some hFind

theorem holdTexts_body (hNames : (pairs.map (·.1)).Nodup) :
    HoldTexts Json.dialect (addFields [] (ordered pairs)) (textOf? pairs) := by
  have hAscending : IsAscending (addFields [] (ordered pairs)) :=
    isAscending_addFields List.Pairwise.nil _
  have hFind (name : String) :
      ((addFields [] (ordered pairs)).find? (·.1 == name)).map (·.2) =
        (textOf? pairs name).map Json.Value.text := by
    have hField := field?_addFields [] (ordered pairs) name
    rw [find?_ordered, find?_reverse_of_nodup hNames] at hField
    rw [textOf?, Option.map_map]
    exact hField.trans (Option.none_or ..)
  refine ⟨hAscending.nodup, fun entry hEntry => ?_, fun name => ?_⟩
  · have hOwn := hFind entry.1
    rw [(find?_key_eq_some_iff hAscending.nodup entry).mpr hEntry, Option.map_some] at hOwn
    obtain ⟨text, -, hText⟩ := Option.map_eq_some_iff.mp hOwn.symm
    rw [← hText]
    exact ⟨⟨text, rfl⟩, rfl⟩
  · have hOwn := hFind name
    cases hEntry : (addFields [] (ordered pairs)).find? (·.1 == name) with
    | none =>
        rw [hEntry] at hOwn
        exact (Option.map_eq_none_iff.mp hOwn.symm).symm
    | some entry =>
        rw [hEntry, Option.map_some] at hOwn
        obtain ⟨text, hText, hValue⟩ := Option.map_eq_some_iff.mp hOwn.symm
        rw [Option.bind_some, hText, ← hValue]
        rfl

/-! ### Two ways to one request -/

theorem toOption_mapError {ε η α : Type} (result : Except ε α) (f : ε → η) :
    (result.mapError f).toOption = result.toOption := by
  cases result <;> rfl

theorem eq_ok_of_toOption {ε α : Type} {result : Except ε α} {a : α}
    (hSome : result.toOption = some a) : result = .ok a := by
  cases result with
  | error e => exact nomatch hSome
  | ok b => exact congrArg Except.ok (Option.some.inj hSome)

/-- A body without fields is read as the pairs of the parameters in order, if they can be read. -/
theorem toOption_readFromBody (type : RequestType ρ) (parameters : String) {request : Http.Request}
    (hBody : readBody request = .ok (.object [])) :
    (readFromBody type parameters request).toOption =
      (readPairs parameters).toOption.bind fun pairs =>
        (type.ofJson (.object (addFields [] (ordered pairs)))).toOption := by
  have hFill := run_fillParameters_object parameters []
  have hRead : readFromBody type parameters request =
      ((mergeIntoBody (.object []) parameters).mapError .target).bind fun body =>
        (type.ofJson body).mapError .unfitBody := by
    rw [readFromBody, hBody]
    rfl
  rw [hRead, mergeIntoBody, hFill]
  cases readPairs parameters with
  | error fault => rfl
  | ok pairs => exact toOption_mapError _ _

/-- Behind no query string the pairs of the parameters are all that is read. -/
theorem toOption_readFromQuery (type : RequestType ρ) (parameters : String)
    {request : Http.Request} (hQuery : request.uri.query.getD "" = "") :
    (readFromQuery type parameters request).toOption =
      (readPairs parameters).toOption.bind fun pairs =>
        (type.ofForm (.pairs pairs)).toOption := by
  have hJoined : joinQueries ["", parameters] = parameters := by
    by_cases hEmpty : parameters = ""
    · subst hEmpty
      decide +kernel
    · simp [joinQueries, hEmpty, Text.glue, Text.join]
  have hRead : readFromQuery type parameters request =
      ((readPairs parameters).mapError .target).bind fun pairs =>
        (type.ofForm (.pairs pairs)).mapError .unfitQuery := by
    rw [readFromQuery, hQuery, hJoined]
    rfl
  rw [hRead]
  cases readPairs parameters with
  | error fault => rfl
  | ok pairs => exact toOption_mapError _ _

section Ways

variable {record : TextRecord ρ} {type : RequestType ρ} (hType : Describes record type)
  {parameters : String}
  (hDistinct : ∀ pairs, readPairs parameters = .ok pairs → (pairs.map (·.1)).Nodup)
  {request : Http.Request}

include hType hDistinct

/-- A body without fields gives what the texts of the parameters make of the record. -/
theorem Describes.toOption_readFromBody (hBody : readBody request = .ok (.object [])) :
    (readFromBody type parameters request).toOption =
      (readPairs parameters).toOption.bind fun pairs => record.ofTexts? (textOf? pairs) := by
  rw [Service.toOption_readFromBody type parameters hBody]
  cases hRead : readPairs parameters with
  | error fault => rfl
  | ok pairs =>
      simp only [Except.toOption, Option.bind_some, hType.ofJson_eq]
      exact record.toOption_read rfl (holdTexts_body (hDistinct pairs hRead))

/-- Behind no query string the texts of the parameters make the same of the record. -/
theorem Describes.toOption_readFromQuery (hQuery : request.uri.query.getD "" = "") :
    (readFromQuery type parameters request).toOption =
      (readPairs parameters).toOption.bind fun pairs => record.ofTexts? (textOf? pairs) := by
  rw [Service.toOption_readFromQuery type parameters hQuery]
  cases hRead : readPairs parameters with
  | error fault => rfl
  | ok pairs =>
      simp only [Except.toOption, Option.bind_some, hType.ofForm_eq]
      exact record.toOption_read rfl (holdTexts_form (hDistinct pairs hRead))

end Ways

/-- **A path gives one request to a body and to a query string.**  Where there is nothing else to read,
the request is refused in both ways, or it is the same in both, and each field that a parameter names
holds what the text of the parameter stands for. -/
theorem body_and_query_give_one_request {record : TextRecord ρ} {type : RequestType ρ}
    (hType : Describes record type) {inBody inQuery : Binding}
    (hBody : inBody.source = .body) (hQuery : inQuery.source = .query)
    (hRoute : inQuery.path = inBody.path)
    (hDistinct : ((parameters inBody.path).map (·.name)).Nodup)
    (hPlain : ∀ parameter ∈ parameters inBody.path, IsPlainName parameter.name)
    {pattern : Http.Pattern}
    (hPattern : Http.Pattern.ofPath? (mounted inBody.path) = some pattern)
    {target : String} {posted asked : Http.Request}
    (hTarget : Http.Uri.parse target = .ok posted.uri)
    (hMatches : pattern.matchesPath posted.uri.path.toList = true)
    (hPath : asked.uri.path = posted.uri.path)
    (hPosted : readBody posted = .ok (.object [])) (hAsked : asked.uri.query.getD "" = "") :
    (readContents inBody type posted).toOption = (readContents inQuery type asked).toOption ∧
      ∀ contents, readContents inBody type posted = .ok contents →
        ∃ texts, contents = record.make texts ∧
          ∀ field ∈ record.fields,
            (∀ parameter ∈ parameters inBody.path, parameter.name = field.name →
              ∃ text, IsMatchedText (segments (mounted inBody.path)) (segments posted.uri.path)
                  field.name text ∧ texts field.name = some (percentDecoded text)) ∧
            ((∀ parameter ∈ parameters inBody.path, parameter.name ≠ field.name) →
              texts field.name = none) := by
  have hHash := (Http.Uri.isWithoutHash_of_parse hTarget).path
  obtain ⟨captured, hNames, hTexts, hPairs⟩ := exists_captured hPlain hPattern hMatches hHash
  have hNodup : (captured.map (·.1)).Nodup := hNames ▸ hDistinct
  have hOnce : ∀ pairs,
      readPairs (pathParameters (mounted inBody.path) posted.uri.path) = .ok pairs →
        (pairs.map (·.1)).Nodup := by
    intro pairs hRead
    rw [hPairs pairs hRead]
    simpa only [List.map_map, Function.comp_def] using hNodup
  have hFirst := hType.toOption_readFromBody hOnce hPosted
  have hSecond := hType.toOption_readFromQuery hOnce hAsked
  simp only [readContents, hBody, hQuery, hRoute, hPath]
  refine ⟨hFirst.trans hSecond.symm, fun contents hContents => ?_⟩
  rw [hContents] at hFirst
  obtain ⟨pairs, hRead, hMade⟩ := Option.bind_eq_some_iff.mp hFirst.symm
  obtain rfl := hPairs pairs (eq_ok_of_toOption hRead)
  obtain ⟨texts, rfl, hOwn⟩ := TextRecord.exists_of_ofTexts? hMade
  refine ⟨texts, rfl, fun field hField => ?_⟩
  rw [hOwn field hField]
  refine ⟨fun parameter hParameter hName => ?_, fun hOthers => textOf?_eq_none fun hMem => ?_⟩
  · have hCaptured : field.name ∈ captured.map (·.1) := by
      rw [hNames, ← hName]
      exact List.mem_map_of_mem hParameter
    obtain ⟨text, hText, hFound⟩ := exists_textOf?_decoded hNodup hCaptured
    exact ⟨text, hTexts _ hText, hFound⟩
  · rw [List.map_map] at hMem
    obtain ⟨parameter, hParameter, hName⟩ := List.mem_map.mp (hNames ▸ hMem)
    exact hOthers parameter hParameter hName

/-- The endpoint that renames a name to the rest of the path. -/
def renameBinding (source : Source) : Binding where
  endpoint := "Rename"
  controller := "Names"
  controllerRoute := "/names"
  action := some "/{name}/{*to}"
  method := .put
  path := "/names/{name}/{*to}"
  source := source
  success := .ok
  otherStatuses := []
  responseBody := none
  access := .anonymous
  contract := ⟨"Sample", "Rename", .command⟩

/-- A path with an escape, a plus sign and the marks of a query string in its texts. -/
def renamePath : String := "/names/a%20b+c/x&y=%2Fz/100%"

def postedRename : Http.Request :=
  ⟨"PUT", ⟨renamePath, none⟩, [("content-type", "application/json")], "\x7b\x7d"⟩

def askedRename : Http.Request := ⟨"PUT", ⟨renamePath, some ""⟩, [], ""⟩

theorem readBody_postedRename : readBody postedRename = .ok (.object []) := by
  have hJson : postedRename.hasJson = true := by decide +kernel
  have hSize : ¬ postedRename.body.utf8ByteSize > bodyLimit := by decide +kernel
  have hBody : Json.first? postedRename.body = some (.object []) := by rfl
  rw [readBody, hJson, if_neg (by decide), if_neg hSize, hBody]

/-- Whether a request is for this new name. -/
def renames (name newName : String) : Sample.Contents → Bool
  | .rename ownName ownNewName => ownName == name && ownNewName == newName
  | _ => false

theorem eq_rename_of_renames {name newName : String} {contents : Sample.Contents}
    (hRenames : renames name newName contents = true) : contents = .rename name newName := by
  cases contents with
  | rename ownName ownNewName =>
      simp only [renames, Bool.and_eq_true, beq_iff_eq] at hRenames
      rw [hRenames.1, hRenames.2]
  | _ => exact absurd hRenames Bool.false_ne_true

/-- The texts of the path are read into one request from an empty body and from an empty query
string. -/
theorem sample_rename_is_read_alike :
    (readContents (renameBinding .body) Sample.renameType postedRename).toOption =
        some (.rename "a b+c" "x&y=/z/100%") ∧
      (readContents (renameBinding .query) Sample.renameType askedRename).toOption =
        some (.rename "a b+c" "x&y=/z/100%") := by
  have hBody : (renameBinding .body).source = .body := rfl
  have hQuery : (renameBinding .query).source = .query := rfl
  have hPlain : ∀ parameter ∈ parameters (renameBinding .body).path,
      IsPlainName parameter.name := by decide +kernel
  have hMatching : (Http.Pattern.ofPath? (mounted (renameBinding .body).path)).any
      (·.matchesPath renamePath.toList) = true := by decide +kernel
  have hTarget : Http.Uri.parse renamePath = .ok postedRename.uri := by decide +kernel
  obtain ⟨pattern, hPattern, hMatches⟩ := (Option.any_eq_true _ _).mp hMatching
  obtain ⟨hSame, -⟩ := body_and_query_give_one_request
    (describes_twoTexts "Rename" (show "name" ≠ "to" by decide) .rename) hBody hQuery rfl
    (by decide +kernel) hPlain hPattern hTarget hMatches (show askedRename.uri.path = _ from rfl)
    readBody_postedRename rfl
  have hAsked : (readContents (renameBinding .query) Sample.renameType askedRename).toOption.any
      (renames "a b+c" "x&y=/z/100%") = true := by decide +kernel
  obtain ⟨contents, hContents, hRenames⟩ := (Option.any_eq_true _ _).mp hAsked
  obtain rfl := eq_rename_of_renames hRenames
  exact ⟨hSame.trans hContents, hContents⟩

end Service
end Switchboard
