import Switchboard.Proofs.Catalogue.Brackets
import Switchboard.Proofs.Catalogue.Finding
import Switchboard.Proofs.Catalogue.Report

/-!
# Resolved result types

A result type is looked at as a text.  It is resolved if something is there, its angle brackets match,
and no underscore stands alone between separators (`isResolved_iff`).  What is meant is a complete
type (`IsComplete`): the head of an arrow is no bracket, and an underscore that is no part of a name
is a placeholder, whatever stands beside it.

For texts without arrows every complete type is resolved, and where besides only separators and
characters of names stand beside underscores the two are the same.  An arrow is counted as a closing
bracket, so that a function type is refused, and a placeholder before a semicolon or behind an equals
sign is not seen (`sample_array_and_arrow_are_misread`).
-/

namespace Switchboard
namespace Catalogue

open Endpoint (Declaration Kind RequestType Signature)

/-! ### Underscores -/

/-- An underscore of a text has neighbours of one kind only, where it has neighbours. -/
def StandsAlone (p : Char → Bool) (type : List Char) : Prop :=
  ∃ before after, type = before ++ '_' :: after ∧
    (∀ c ∈ before.getLast?, p c = true) ∧ ∀ c ∈ after.head?, p c = true

/-- An underscore stands alone if it is a piece between characters of the kind. -/
theorem standsAlone_iff {p : Char → Bool} (hPlain : p '_' = false) (type : List Char) :
    StandsAlone p type ↔ ['_'] ∈ Text.split p type := by
  constructor
  · rintro ⟨before, after, rfl, hBefore, hAfter⟩
    have hBetween : Text.StandsBetween p before ['_'] after :=
      ⟨by simpa using hPlain, hBefore, hAfter⟩
    have hPiece := hBetween.mem_split
    rwa [List.append_assoc] at hPiece
  · intro hPiece
    obtain ⟨before, after, rfl, hBetween⟩ := Text.exists_standsBetween_of_mem_split hPiece
    exact ⟨before, after, by simp, hBetween.before, hBetween.after⟩

theorem StandsAlone.mono {p q : Char → Bool} (hImp : ∀ c, p c = true → q c = true)
    {type : List Char} (hAlone : StandsAlone p type) : StandsAlone q type := by
  obtain ⟨before, after, hType, hBefore, hAfter⟩ := hAlone
  exact ⟨before, after, hType, fun c hc => hImp c (hBefore c hc), fun c hc => hImp c (hAfter c hc)⟩

theorem hasPlaceholder_iff (type : List Char) :
    hasPlaceholder type = true ↔ StandsAlone isTypeSeparator type := by
  rw [standsAlone_iff (by decide), hasPlaceholder, List.contains_iff_mem]

/-! ### Resolved types -/

/-- A type that is resolved as it stands. -/
structure IsResolved (type : List Char) : Prop where
  nonempty : type ≠ []
  balanced : IsBalanced (type.filter isBracket)
  known : ¬ StandsAlone isTypeSeparator type

theorem isResolved_iff (type : String) : isResolved type = true ↔ IsResolved type.toList := by
  have hEmpty : type.isEmpty = false ↔ type.toList ≠ [] := by
    rw [← Bool.not_eq_true, String.isEmpty_iff, ne_eq, String.toList_eq_nil_iff]
  have hBalanced := bracketsMatch_iff 0 type.toList
  rw [List.replicate_zero, List.nil_append] at hBalanced
  simp only [isResolved, Bool.and_eq_true, Bool.not_eq_true', hEmpty, hBalanced]
  rw [← Bool.not_eq_true, hasPlaceholder_iff]
  exact ⟨fun h => ⟨h.1.1, h.1.2, h.2⟩, fun h => ⟨⟨h.nonempty, h.balanced⟩, h.known⟩⟩

/-! ### Complete types -/

/-- The brackets of a text, without the heads of arrows. -/
def genericBrackets : List Char → List Char
  | [] => []
  | '-' :: '>' :: rest => genericBrackets rest
  | c :: rest => if isBracket c then c :: genericBrackets rest else genericBrackets rest

/-- A type in which nothing is left open, where some characters make up the names. -/
structure IsComplete (isWord : Char → Bool) (type : List Char) : Prop where
  nonempty : type ≠ []
  balanced : IsBalanced (genericBrackets type)
  known : ¬ StandsAlone (fun c => !isWord c) type

def HasArrow (type : List Char) : Prop :=
  ['-', '>'] <:+: type

/-- Beside underscores stand only characters of names and separators. -/
def IsDelimited (isWord : Char → Bool) (type : List Char) : Prop :=
  ∀ c, [c, '_'] <:+: type ∨ ['_', c] <:+: type → isWord c = true ∨ isTypeSeparator c = true

/-- Without arrows all brackets are those of generic types. -/
theorem genericBrackets_eq_filter {type : List Char} (hArrow : ¬ HasArrow type) :
    genericBrackets type = type.filter isBracket := by
  induction type using genericBrackets.induct with
  | case1 => rfl
  | case2 rest => exact absurd ⟨[], rest, rfl⟩ hArrow
  | case3 c rest hNot hBracket ih =>
      have hRest : ¬ HasArrow rest := fun h => hArrow (h.trans (List.infix_cons List.infix_rfl))
      rw [genericBrackets.eq_3 _ _ hNot, if_pos hBracket, List.filter_cons_of_pos hBracket, ih hRest]
  | case4 c rest hNot hBracket ih =>
      have hRest : ¬ HasArrow rest := fun h => hArrow (h.trans (List.infix_cons List.infix_rfl))
      rw [genericBrackets.eq_3 _ _ hNot, if_neg hBracket, List.filter_cons_of_neg hBracket, ih hRest]

variable {isWord : Char → Bool} {type : List Char}

theorem IsComplete.isResolved (hWord : ∀ c, isWord c = true → isTypeSeparator c = false)
    (hArrow : ¬ HasArrow type) (hComplete : IsComplete isWord type) : IsResolved type where
  nonempty := hComplete.nonempty
  balanced := genericBrackets_eq_filter hArrow ▸ hComplete.balanced
  known hAlone := hComplete.known <| hAlone.mono fun c hSeparator => by
    -- A separator is no character of a name.
    cases hName : isWord c with
    | false => rfl
    | true => exact absurd hSeparator (by simp [hWord c hName])

/-- Between delimiters an underscore that is no part of a name stands alone. -/
theorem IsDelimited.standsAlone (hDelimited : IsDelimited isWord type)
    (hAlone : StandsAlone (fun c => !isWord c) type) : StandsAlone isTypeSeparator type := by
  obtain ⟨before, after, rfl, hBefore, hAfter⟩ := hAlone
  refine ⟨before, after, rfl, fun c hc => ?_, fun c hc => ?_⟩
  · obtain ⟨front, rfl⟩ := List.getLast?_eq_some_iff.mp hc
    have hBeside : [c, '_'] <:+: front ++ [c] ++ '_' :: after := ⟨front, after, by simp⟩
    exact (hDelimited c (Or.inl hBeside)).resolve_left (by simpa using hBefore c hc)
  · obtain ⟨rest, rfl⟩ := List.head?_eq_some_iff.mp hc
    have hBeside : ['_', c] <:+: before ++ '_' :: c :: rest := ⟨before, rest, by simp⟩
    exact (hDelimited c (Or.inr hBeside)).resolve_left (by simpa using hAfter c hc)

theorem IsResolved.isComplete (hArrow : ¬ HasArrow type) (hDelimited : IsDelimited isWord type)
    (hResolved : IsResolved type) : IsComplete isWord type where
  nonempty := hResolved.nonempty
  balanced := (genericBrackets_eq_filter hArrow).symm ▸ hResolved.balanced
  known hAlone := hResolved.known (hDelimited.standsAlone hAlone)

/-! ### Results of declarations -/

theorem isResolved_of_capabilityOf {kind : Kind} {signature : Signature} {result : String}
    (hCapability : capabilityOf kind signature = .ok (.produces result)) :
    isResolved result = true := by
  unfold capabilityOf at hCapability
  split at hCapability
  · split_ifs at hCapability with hResolved
    obtain rfl := Capability.produces.inj (Except.ok.inj hCapability)
    exact hResolved
  · exact nomatch hCapability
  · exact nomatch hCapability

/-- What a compiled endpoint produces is resolved. -/
theorem isResolved_of_compile {routePrefix : String} {ds : List Declaration}
    {catalogue : Catalogue} (hCompile : compile routePrefix ds = .ok catalogue) {entry : Entry}
    (hMem : entry ∈ catalogue.entries) {result : String}
    (hProduces : entry.contract.capability = .produces result) : isResolved result = true := by
  obtain ⟨d, -, hEntry⟩ := exists_declaration_of_mem_entries hCompile hMem
  obtain ⟨-, parts, hParts, rfl⟩ := (entryOf_eq_ok_iff _ _ _).mp hEntry
  obtain ⟨signature, hCapability⟩ := capabilityOf_of_partsOf?_eq_some hParts
  exact isResolved_of_capabilityOf (hCapability.trans (congrArg Except.ok hProduces))

/-- **Result types are resolved.**  Exactly those are that have matching brackets and no underscore
alone between separators; an endpoint produces no other type, and a declaration is refused for every
other one.  Without arrows every complete type is among them, and no other type is, unless it has an
underscore beside what is neither a separator nor part of a name. -/
theorem result_types_are_resolved
    (hWord : ∀ c, isWord c = true → isTypeSeparator c = false) :
    (∀ text, isResolved (Text.trim text) = true ↔ IsResolved (Text.trim text).toList) ∧
      (∀ type, ¬ HasArrow type → IsComplete isWord type → IsResolved type) ∧
      (∀ type, ¬ HasArrow type → IsDelimited isWord type →
        IsResolved type → IsComplete isWord type) ∧
      (∀ routePrefix ds catalogue, compile routePrefix ds = .ok catalogue →
        ∀ entry ∈ catalogue.entries, ∀ result,
          entry.contract.capability = .produces result → IsResolved result.toList) ∧
      ∀ d kind requestType signature result, IsSettled d kind requestType signature →
        HasResult signature result →
          (.unresolvedResult (some result) ∈ problemsOf d ↔ ¬ IsResolved result.toList) := by
  refine ⟨fun text => isResolved_iff _, fun type hArrow => IsComplete.isResolved hWord hArrow,
    fun type => IsResolved.isComplete, ?_, ?_⟩
  · intro routePrefix ds catalogue hCompile entry hMem result hProduces
    exact (isResolved_iff result).mp (isResolved_of_compile hCompile hMem hProduces)
  · intro d kind requestType signature result hSettled hResult
    rw [(isReport_problemsOf d).mem_iff, hSettled.hasFault_unresolved_iff, resultTypeOf_eq_some_iff,
      ← isResolved_iff, Bool.not_eq_true]
    exact and_iff_right hResult

/-! ### Types that are misread -/

/-- The characters of names in types without letters of other alphabets. -/
def isNameChar (c : Char) : Bool := c.isAlphanum || c == '_'

theorem isTypeSeparator_of_isNameChar (c : Char) (hName : isNameChar c = true) :
    isTypeSeparator c = false := by
  rw [Bool.eq_false_iff]
  intro hSeparator
  have hMem : c ∈ "<>,()[]& ".toList := List.contains_iff_mem.mp hSeparator
  have hNone : "<>,()[]& ".toList.all (fun separator => !isNameChar separator) = true := by decide
  have hNot := List.all_eq_true.mp hNone c hMem
  rw [hName] at hNot
  exact nomatch hNot

/-- A query whose handler hands back a result of a type. -/
def finding (result : String) : Declaration :=
  ((Declaration.bare "app::Orders" "Find" .get).withQuery ⟨some "Find", false⟩).withHandler
    ⟨[], some result⟩

/-- Underscores in names and blanks around the whole do not matter. -/
theorem sample_result_types_are_resolved :
    (∀ c, isNameChar c = true → isTypeSeparator c = false) ∧
      IsComplete isNameChar "Vec<(u8, my_type_)>".toList ∧
      isResolved (Text.trim " Vec<(u8, my_type_)> ") = true := by
  obtain ⟨hText, hResolved, -, -, -⟩ := result_types_are_resolved isTypeSeparator_of_isNameChar
  have hBrackets : genericBrackets "Vec<(u8, my_type_)>".toList = ['<', '>'] := by decide
  have hKnown : ¬ StandsAlone (fun c => !isNameChar c) "Vec<(u8, my_type_)>".toList := by
    rw [standsAlone_iff (by decide)]
    decide
  have hDash : '-' ∉ "Vec<(u8, my_type_)>".toList := by decide
  have hArrow : ¬ HasArrow "Vec<(u8, my_type_)>".toList := fun h =>
    hDash (h.subset List.mem_cons_self)
  have hTrim : Text.trim " Vec<(u8, my_type_)> " = "Vec<(u8, my_type_)>" := by decide +kernel
  have hComplete : IsComplete isNameChar "Vec<(u8, my_type_)>".toList :=
    ⟨by decide, hBrackets ▸ .nest .nil, hKnown⟩
  refine ⟨isTypeSeparator_of_isNameChar, hComplete, (hText _).mpr ?_⟩
  rw [hTrim]
  exact hResolved _ hArrow hComplete

/-- An endpoint produces an array of a type that is left open, and a function type is refused for its
arrow although nothing in it is open. -/
theorem sample_array_and_arrow_are_misread :
    (∃ entry, entryOf "" (finding "[_; 4]") = .ok entry ∧
      entry.contract.capability = .produces "[_; 4]" ∧
        ¬ IsComplete isNameChar "[_; 4]".toList) ∧
      IsComplete isNameChar "fn(u8) -> u8".toList ∧
        problemsOf (finding "fn(u8) -> u8") = [.unresolvedResult (some "fn(u8) -> u8")] := by
  have hArray : (entryOf "" (finding "[_; 4]")).toOption.map (·.contract.capability) =
      some (.produces "[_; 4]") := by decide +kernel
  have hAlone : StandsAlone (fun c => !isNameChar c) "[_; 4]".toList := by
    rw [standsAlone_iff (by decide)]
    decide
  have hBrackets : genericBrackets "fn(u8) -> u8".toList = [] := by decide
  have hKnown : ¬ StandsAlone (fun c => !isNameChar c) "fn(u8) -> u8".toList := by
    rw [standsAlone_iff (by decide)]
    decide
  refine ⟨?_, ⟨by decide, hBrackets ▸ .nil, hKnown⟩, by decide +kernel⟩
  cases hEntry : entryOf "" (finding "[_; 4]") with
  | error problems => simp [hEntry, Except.toOption] at hArray
  | ok entry =>
      rw [hEntry] at hArray
      exact ⟨entry, rfl, Option.some.inj hArray, fun hComplete => hComplete.known hAlone⟩

end Catalogue
end Switchboard
