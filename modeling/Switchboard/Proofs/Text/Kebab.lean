import Switchboard.Text.Kebab
import Switchboard.Proofs.Text.Cluster
import Switchboard.Proofs.Text.Pieces

/-!
# Kebab case

Cutting a text into words loses nothing but the separators (`flatten_wordsAfter`), so the kebab-case
form is empty only for texts of separators (`kebab_eq_empty_iff`).

In an ASCII text every cluster is one character, except for the two that end a line, and these are
in one word anyway (`words_of_ascii`).  Hence the words of such a text can be told character by
character: two neighbours are in one word unless the second is a capital that opens a word
(`opensWord`).  The kebab-case form holds no capitals, so its words are the pieces between its
hyphens, and taking it again changes nothing.
-/

namespace Switchboard
namespace Text

/-! ### Words of clusters -/

theorem wordsAfter_ne_nil (before : Option (List Char)) (clusters : List (List Char)) :
    wordsAfter before clusters ≠ [] := by
  cases clusters with
  | nil => simp [wordsAfter]
  | cons this rest =>
      simp only [wordsAfter]
      split_ifs
      · simp
      · simp
      · split <;> simp

theorem wordsAfter_separator {this : List Char} (hSep : isWordSeparator this = true)
    (before : Option (List Char)) (rest : List (List Char)) :
    wordsAfter before (this :: rest) = [] :: wordsAfter (some this) rest := by
  simp [wordsAfter, hSep]

theorem wordsAfter_cons {this word : List Char} {rest words : List (List Char)}
    (hPlain : isWordSeparator this = false) (hRest : wordsAfter (some this) rest = word :: words)
    (before : Option (List Char)) :
    wordsAfter before (this :: rest) =
      (if startsWord before this rest.head? then [[]] else []) ++ (this ++ word) :: words := by
  simp only [wordsAfter, hPlain, hRest, Bool.false_eq_true, if_false]
  split_ifs <;> rfl

/-- Only a capital starts a word by itself. -/
theorem startsWord_of_isUpper_eq_false {this : List Char} (hUpper : isUpper this = false)
    (before after : Option (List Char)) : startsWord before this after = false := by
  cases before with
  | none => rfl
  | some before => simp [startsWord, hUpper]

/-- Nothing but the separators is lost. -/
theorem flatten_wordsAfter (before : Option (List Char)) (clusters : List (List Char)) :
    (wordsAfter before clusters).flatten =
      (clusters.filter (!isWordSeparator ·)).flatten := by
  induction clusters generalizing before with
  | nil => rfl
  | cons this rest ih =>
      obtain ⟨word, words, hRest⟩ :=
        List.exists_cons_of_ne_nil (wordsAfter_ne_nil (some this) rest)
      have hFlatten := ih (some this)
      rw [hRest, List.flatten_cons] at hFlatten
      cases hSep : isWordSeparator this with
      | true => rw [wordsAfter_separator hSep, hRest]; simp [hSep, hFlatten]
      | false =>
          rw [wordsAfter_cons hSep hRest]
          split_ifs <;> simp [hSep, hFlatten]

/-- The characters that separate words. -/
def isSeparator (c : Char) : Bool :=
  c == '-' || c == '_' || c == ' '

@[simp]
theorem isWordSeparator_singleton (c : Char) : isWordSeparator [c] = isSeparator c := by
  simp [isWordSeparator, isSeparator]

theorem exists_of_isWordSeparator {cluster : List Char} (hSep : isWordSeparator cluster = true) :
    ∃ c, cluster = [c] ∧ isSeparator c = true := by
  simp only [isWordSeparator, Bool.or_eq_true, beq_iff_eq] at hSep
  rcases hSep with (rfl | rfl) | rfl
  · exact ⟨'-', rfl, rfl⟩
  · exact ⟨'_', rfl, rfl⟩
  · exact ⟨' ', rfl, rfl⟩

/-! ### Words of ASCII texts -/

/-- The words of a text in which every character is a cluster, where a character stands in front. -/
def wordsFrom (before : Option Char) (cs : List Char) : List (List Char) :=
  wordsAfter (before.map ([·])) (cs.map ([·]))

/-- What stands in front matters only for whether a word starts behind it. -/
theorem wordsAfter_congr {before other : Option (List Char)}
    (hStarts : ∀ this after, startsWord before this after = startsWord other this after)
    (clusters : List (List Char)) : wordsAfter before clusters = wordsAfter other clusters := by
  cases clusters with
  | nil => rfl
  | cons this rest => simp only [wordsAfter, hStarts]

theorem startsWord_eq_of_any_eq {after other : Option (List Char)}
    (hAny : after.any isLower = other.any isLower) (before : Option (List Char))
    (this : List Char) : startsWord before this after = startsWord before this other := by
  cases before with
  | none => rfl
  | some before => simp only [startsWord, hAny]

theorem IsLineCut.any_head? {cs : List Char} {clusters : List (List Char)}
    (hCut : IsLineCut cs clusters) :
    clusters.head?.any isLower = (cs.map ([·])).head?.any isLower := by
  cases hCut with
  | nil => rfl
  | single => rfl
  | lineEnd =>
      show isLower ['\r', '\n'] = isLower ['\r']
      decide

/-- The two characters that end a line are in one word, together or one by one. -/
theorem IsLineCut.wordsAfter_eq {cs : List Char} {clusters : List (List Char)}
    (hCut : IsLineCut cs clusters) (before : Option (List Char)) :
    wordsAfter before clusters = wordsAfter before (cs.map ([·])) := by
  induction hCut generalizing before with
  | nil => rfl
  | single c hRest ih =>
      have hHead := startsWord_eq_of_any_eq hRest.any_head? before [c]
      simp only [List.map_cons, wordsAfter, ih, hHead]
  | @lineEnd rest clusters hRest ih =>
      have hBehind : wordsAfter (some ['\r', '\n']) clusters =
          wordsAfter (some ['\n']) (rest.map ([·])) := by
        rw [ih]
        refine wordsAfter_congr (fun this after => ?_) _
        simp [startsWord, show isUpper ['\r', '\n'] = false by decide,
          show isUpper ['\n'] = false by decide, show isLower ['\r', '\n'] = false by decide,
          show isLower ['\n'] = false by decide, show isDigit ['\r', '\n'] = false by decide,
          show isDigit ['\n'] = false by decide]
      obtain ⟨word, words, hWords⟩ :=
        List.exists_cons_of_ne_nil (wordsAfter_ne_nil (some ['\n']) (rest.map ([·])))
      have hFeed := wordsAfter_cons (by decide) hWords (some ['\r'])
      rw [startsWord_of_isUpper_eq_false (by decide)] at hFeed
      rw [List.map_cons, List.map_cons, wordsAfter_cons (by decide) (hBehind.trans hWords),
        wordsAfter_cons (by decide) hFeed, startsWord_of_isUpper_eq_false (by decide),
        startsWord_of_isUpper_eq_false (by decide)]
      rfl

theorem wordsFrom_ne_nil (before : Option Char) (cs : List Char) : wordsFrom before cs ≠ [] :=
  wordsAfter_ne_nil _ _

theorem wordsFrom_separator {c : Char} (hSep : isSeparator c = true) (before : Option Char)
    (rest : List Char) : wordsFrom before (c :: rest) = [] :: wordsFrom (some c) rest :=
  wordsAfter_separator (by simpa using hSep) _ _

/-- A character belongs to the word behind it, and it may open that word. -/
theorem exists_wordsFrom_cons {c : Char} {rest word : List Char} {words : List (List Char)}
    (hPlain : isSeparator c = false) (hRest : wordsFrom (some c) rest = word :: words)
    (before : Option Char) :
    ∃ opening, opening.flatten = [] ∧
      wordsFrom before (c :: rest) = opening ++ (c :: word) :: words := by
  have hCons := wordsAfter_cons ((isWordSeparator_singleton c).trans hPlain) hRest (before.map ([·]))
  refine ⟨_, ?_, hCons⟩
  split_ifs <;> rfl

theorem flatten_wordsFrom (before : Option Char) (cs : List Char) :
    (wordsFrom before cs).flatten = cs.filter (!isSeparator ·) := by
  rw [wordsFrom, flatten_wordsAfter, List.filter_map, ← List.flatMap_def]
  simp [Function.comp_def]

/-- Without capitals the words are what stands between the separators. -/
theorem wordsFrom_eq_split {cs : List Char} (hSmall : ∀ c ∈ cs, isUpper [c] = false)
    (before : Option Char) : wordsFrom before cs = split isSeparator cs := by
  induction cs generalizing before with
  | nil => rfl
  | cons c rest ih =>
      have hRest := ih (fun d hd => hSmall d (List.mem_cons_of_mem c hd)) (some c)
      obtain ⟨word, words, hWords⟩ := List.exists_cons_of_ne_nil (wordsFrom_ne_nil (some c) rest)
      cases hSep : isSeparator c with
      | true => rw [wordsFrom_separator hSep, split, if_pos hSep, hRest]
      | false =>
          have hNoStart := startsWord_of_isUpper_eq_false (hSmall c (by simp)) (before.map ([·]))
          have hCons := wordsAfter_cons ((isWordSeparator_singleton c).trans hSep) hWords
            (before.map ([·]))
          rw [hNoStart] at hCons
          rw [split, if_neg (by simp [hSep]), ← hRest, hWords]
          exact hCons

/-- The words of two neighbours with what else is in these words: two words or one. -/
def neighbours (apart : Bool) (a b : Char) (left right : List Char) : List (List Char) :=
  if apart then [left ++ [a], b :: right] else [left ++ a :: b :: right]

theorem exists_neighbours_nil (apart : Bool) (a b : Char) (right : List Char)
    (more : List (List Char)) :
    ∃ word words, (if apart then [[]] else []) ++ (b :: right) :: more = word :: words ∧
      neighbours apart a b [] right ++ more = (a :: word) :: words := by
  cases apart with
  | false => exact ⟨_, _, rfl, rfl⟩
  | true => exact ⟨_, _, rfl, rfl⟩

theorem exists_neighbours_cons (apart : Bool) (a b c : Char) (left right : List Char) :
    ∃ word words, neighbours apart a b left right = word :: words ∧
      neighbours apart a b (c :: left) right = (c :: word) :: words := by
  cases apart with
  | false => exact ⟨_, _, rfl, rfl⟩
  | true => exact ⟨_, _, rfl, rfl⟩

/-- Two characters that stand side by side and are no separators are the neighbours of two words
where the second one starts a word, and else of one. -/
theorem exists_wordsFrom_eq (before : Option Char) (front : List Char) {a b : Char}
    (back : List Char) (ha : isSeparator a = false) (hb : isSeparator b = false) :
    ∃ words left right more,
      words.flatten ++ left = front.filter (!isSeparator ·) ∧
      right ++ more.flatten = back.filter (!isSeparator ·) ∧
      wordsFrom before (front ++ a :: b :: back) =
        words ++ neighbours (startsWord (some [a]) [b] (back.map ([·])).head?) a b left right ++
          more := by
  induction front generalizing before with
  | nil =>
      obtain ⟨right, more, hBack⟩ := List.exists_cons_of_ne_nil (wordsFrom_ne_nil (some b) back)
      have hFlatten := flatten_wordsFrom (some b) back
      rw [hBack, List.flatten_cons] at hFlatten
      have hSecond : wordsFrom (some a) (b :: back) =
          (if startsWord (some [a]) [b] (back.map ([·])).head? then [[]] else []) ++
            (b :: right) :: more :=
        wordsAfter_cons ((isWordSeparator_singleton b).trans hb) hBack (some [a])
      obtain ⟨word, rest, hHere, hCons⟩ := exists_neighbours_nil
        (startsWord (some [a]) [b] (back.map ([·])).head?) a b right more
      rw [hHere] at hSecond
      obtain ⟨opening, hOpening, hFirst⟩ := exists_wordsFrom_cons ha hSecond before
      refine ⟨opening, [], right, more, by simp [hOpening], hFlatten, ?_⟩
      rw [List.nil_append, hFirst, List.append_assoc, hCons]
  | cons c front ih =>
      obtain ⟨words, left, right, more, hFront, hBack, hRest⟩ := ih (some c)
      cases hSep : isSeparator c with
      | true =>
          refine ⟨[] :: words, left, right, more, by simpa [hSep] using hFront, hBack, ?_⟩
          rw [List.cons_append, wordsFrom_separator hSep, hRest]
          rfl
      | false =>
          -- The character goes to the first word behind it, which may be that of the neighbours.
          cases words with
          | nil =>
              obtain ⟨word, words, hHere, hCons⟩ := exists_neighbours_cons
                (startsWord (some [a]) [b] (back.map ([·])).head?) a b c left right
              rw [List.nil_append, hHere] at hRest
              obtain ⟨opening, hOpening, hFirst⟩ := exists_wordsFrom_cons hSep hRest before
              refine ⟨opening, c :: left, right, more, ?_, hBack, ?_⟩
              · simpa [hSep, hOpening] using hFront
              · rw [List.cons_append, hFirst, hCons]
                simp
          | cons word words =>
              obtain ⟨opening, hOpening, hFirst⟩ := exists_wordsFrom_cons hSep hRest before
              refine ⟨opening ++ (c :: word) :: words, left, right, more, ?_, hBack, ?_⟩
              · simpa [hSep, hOpening] using hFront
              · rw [List.cons_append, hFirst]
                simp

/-! ### Kebab case of ASCII texts -/

/-- Whether a hyphen goes between two neighbours, by what stands behind them: the second one is a
capital, and the first is a small letter or a digit, or it is a capital as well and a small letter
follows. -/
def opensWord (a b : Char) (next : Option Char) : Bool :=
  b.isUpper && (a.isLower || a.isDigit || (a.isUpper && next.any Char.isLower))

/-- What the kebab-case form of an ASCII text is. -/
structure IsKebabOf (source form : List Char) : Prop where
  small : ∀ c ∈ form, c.isUpper = false
  plain : '_' ∉ form ∧ ' ' ∉ form
  first : form.head? ≠ some '-'
  last : form.getLast? ≠ some '-'
  single : ¬ ['-', '-'] <:+: form
  /-- Without its hyphens it is the text in small letters without its separators. -/
  kept : form.filter (· ≠ '-') = (toLower source).filter (!isSeparator ·)
  /-- Between neighbours of the text a hyphen stands exactly if the second one opens a word. -/
  between : ∀ front a b back, source = front ++ a :: b :: back → isSeparator a = false →
    isSeparator b = false → ∃ left right,
      form = left ++ a.toLower ::
        ((if opensWord a b back.head? then ['-'] else []) ++ b.toLower :: right) ∧
      left.filter (· ≠ '-') = (toLower front).filter (!isSeparator ·) ∧
      right.filter (· ≠ '-') = (toLower back).filter (!isSeparator ·)

theorem isUpper_ascii {c : Char} (hAscii : c.toNat < 128) : isUpper [c] = c.isUpper :=
  forall_ascii (P := fun c => isUpper [c] = c.isUpper) (by decide +kernel) hAscii

theorem isLower_ascii {c : Char} (hAscii : c.toNat < 128) : isLower [c] = c.isLower :=
  forall_ascii (P := fun c => isLower [c] = c.isLower) (by decide +kernel) hAscii

theorem toLower_ascii {c : Char} (hAscii : c.toNat < 128) :
    c.toLower.toNat < 128 ∧ c.toLower.isUpper = false ∧ c.toLower.toLower = c.toLower ∧
      isSeparator c.toLower = isSeparator c :=
  forall_ascii (P := fun c => c.toLower.toNat < 128 ∧ c.toLower.isUpper = false ∧
    c.toLower.toLower = c.toLower ∧ isSeparator c.toLower = isSeparator c) (by decide +kernel)
    hAscii

theorem lowerAfter_ascii {cs : List Char} (hAscii : ∀ c ∈ cs, c.toNat < 128)
    (before : List Char) : lowerAfter before cs = cs.map Char.toLower := by
  induction cs generalizing before with
  | nil => rfl
  | cons c rest ih =>
      have hFirst : c.toNat < 128 := hAscii c (by simp)
      have hSigma : (c == 'Σ') = false := by
        refine beq_false_of_ne ?_
        rintro rfl
        exact absurd hFirst (by decide)
      rw [lowerAfter, hSigma, ih fun d hd => hAscii d (List.mem_cons_of_mem c hd)]
      simp [lowerChar, hFirst]

theorem toLower_of_ascii {cs : List Char} (hAscii : ∀ c ∈ cs, c.toNat < 128) :
    toLower cs = cs.map Char.toLower :=
  lowerAfter_ascii hAscii []

theorem filter_toLower {cs : List Char} (hAscii : ∀ c ∈ cs, c.toNat < 128) :
    (toLower cs).filter (!isSeparator ·) = (cs.filter (!isSeparator ·)).map Char.toLower := by
  rw [toLower_of_ascii hAscii, List.filter_map]
  congr 1
  exact List.filter_congr fun c hc => by
    rw [Function.comp_apply, (toLower_ascii (hAscii c hc)).2.2.2]

theorem startsWord_ascii {a b : Char} {back : List Char} (ha : a.toNat < 128)
    (hb : b.toNat < 128) (hBack : ∀ c ∈ back, c.toNat < 128) :
    startsWord (some [a]) [b] (back.map ([·])).head? = opensWord a b back.head? := by
  have hNext : (back.map ([·])).head?.any isLower = back.head?.any Char.isLower := by
    cases back with
    | nil => rfl
    | cons c rest => exact isLower_ascii (hBack c (by simp))
  rw [startsWord, hNext, isUpper_ascii ha, isUpper_ascii hb, isLower_ascii ha, opensWord]
  simp [isDigit]

/-- The parts of a kebab-case form: the words that are not empty, in small letters. -/
def kebabParts (words : List (List Char)) : List (List Char) :=
  (words.filter (!·.isEmpty)).map (·.map Char.toLower)

theorem kebabParts_append (words others : List (List Char)) :
    kebabParts (words ++ others) = kebabParts words ++ kebabParts others := by
  simp [kebabParts]

theorem flatten_kebabParts (words : List (List Char)) :
    (kebabParts words).flatten = words.flatten.map Char.toLower := by
  rw [kebabParts, ← List.map_flatten, List.flatten_filter_not_isEmpty]

theorem kebab_of_ascii {s : String} (hAscii : ∀ c ∈ s.toList, c.toNat < 128) :
    (kebab s).toList = join '-' (kebabParts (wordsFrom none s.toList)) := by
  have hWords : words s.toList = (wordsFrom none s.toList).filter (!·.isEmpty) := by
    rw [words, (isLineCut_clusters hAscii).wordsAfter_eq]
    rfl
  rw [kebab, String.toList_ofList, hWords, kebabParts]
  congr 1
  refine List.map_congr_left fun word hWord => toLower_of_ascii fun c hc => ?_
  have hMem : c ∈ (wordsFrom none s.toList).flatten :=
    List.mem_flatten.mpr ⟨word, (List.mem_filter.mp hWord).1, hc⟩
  rw [flatten_wordsFrom] at hMem
  exact hAscii c (List.mem_filter.mp hMem).1

/-- The characters of the parts are those of the words in small letters. -/
theorem of_mem_kebabParts {cs part : List Char} (hAscii : ∀ c ∈ cs, c.toNat < 128)
    {before : Option Char} (hPart : part ∈ kebabParts (wordsFrom before cs)) :
    part ≠ [] ∧ ∀ c ∈ part,
      c.toNat < 128 ∧ c.isUpper = false ∧ c.toLower = c ∧ isSeparator c = false := by
  obtain ⟨word, hWord, rfl⟩ := List.mem_map.mp hPart
  obtain ⟨hWord, hNe⟩ := List.mem_filter.mp hWord
  refine ⟨by simpa using hNe, fun c hc => ?_⟩
  obtain ⟨d, hd, rfl⟩ := List.mem_map.mp hc
  have hMem : d ∈ (wordsFrom before cs).flatten := List.mem_flatten.mpr ⟨word, hWord, hd⟩
  rw [flatten_wordsFrom, List.mem_filter] at hMem
  obtain ⟨hLower, hSmall, hAgain, hSep⟩ := toLower_ascii (hAscii d hMem.1)
  exact ⟨hLower, hSmall, hAgain, hSep.trans (by simpa using hMem.2)⟩

theorem hyphen_not_mem_kebabParts {cs part : List Char} (hAscii : ∀ c ∈ cs, c.toNat < 128)
    {before : Option Char} (hPart : part ∈ kebabParts (wordsFrom before cs)) : '-' ∉ part := by
  intro hHyphen
  obtain ⟨-, hEach⟩ := of_mem_kebabParts hAscii hPart
  exact absurd (hEach '-' hHyphen).2.2.2 (by decide)

theorem of_mem_join_kebabParts {cs : List Char} (hAscii : ∀ c ∈ cs, c.toNat < 128)
    {before : Option Char} {c : Char}
    (hc : c ∈ join '-' (kebabParts (wordsFrom before cs))) :
    c.toNat < 128 ∧ c.isUpper = false ∧ isSeparator c = (c == '-') := by
  rcases mem_join hc with rfl | ⟨part, hPart, hc⟩
  · decide
  · obtain ⟨-, hEach⟩ := of_mem_kebabParts hAscii hPart
    obtain ⟨hLow, hSmall, -, hSep⟩ := hEach c hc
    have hHyphen : c ≠ '-' := by
      rintro rfl
      exact absurd hSep (by decide)
    exact ⟨hLow, hSmall, by rw [hSep, beq_false_of_ne hHyphen]⟩

theorem kebabParts_neighbours (apart : Bool) (a b : Char) (left right : List Char) :
    kebabParts (neighbours apart a b left right) =
      neighbours apart a.toLower b.toLower (left.map Char.toLower) (right.map Char.toLower) := by
  cases apart <;> simp [kebabParts, neighbours]

theorem exists_join_neighbours (apart : Bool) (a b : Char) (left right : List Char)
    {parts : List (List Char)} (hFree : ∀ part ∈ parts, '-' ∉ part) :
    ∃ tail, join '-' (neighbours apart a b left right ++ parts) =
        left ++ a :: ((if apart then ['-'] else []) ++ b :: (right ++ tail)) ∧
      tail.filter (· ≠ '-') = parts.flatten := by
  cases apart with
  | false =>
      obtain ⟨tail, hJoin, hKept⟩ := exists_join_cons (left ++ a :: b :: right) hFree
      exact ⟨tail, by simpa [neighbours] using hJoin, hKept⟩
  | true =>
      obtain ⟨tail, hJoin, hKept⟩ := exists_join_cons (b :: right) hFree
      refine ⟨tail, ?_, hKept⟩
      show join '-' ((left ++ [a]) :: (b :: right) :: parts) = _
      rw [join_cons '-' (left ++ [a]) (by simp), hJoin]
      simp

/-- Characters that are no separators leave no hyphens in small letters. -/
theorem filter_map_toLower {cs : List Char}
    (hEach : ∀ c ∈ cs, c.toNat < 128 ∧ isSeparator c = false) :
    (cs.map Char.toLower).filter (· ≠ '-') = cs.map Char.toLower := by
  refine List.filter_eq_self.mpr fun c hc => decide_eq_true ?_
  rintro rfl
  obtain ⟨d, hd, hLower⟩ := List.mem_map.mp hc
  obtain ⟨hLow, hSep⟩ := hEach d hd
  rw [← (toLower_ascii hLow).2.2.2, hLower] at hSep
  exact absurd hSep (by decide)

theorem exists_between {front back : List Char} {a b : Char}
    (hAscii : ∀ c ∈ front ++ a :: b :: back, c.toNat < 128)
    (ha : isSeparator a = false) (hb : isSeparator b = false) :
    ∃ left right,
      join '-' (kebabParts (wordsFrom none (front ++ a :: b :: back))) = left ++ a.toLower ::
        ((if opensWord a b back.head? then ['-'] else []) ++ b.toLower :: right) ∧
      left.filter (· ≠ '-') = (toLower front).filter (!isSeparator ·) ∧
      right.filter (· ≠ '-') = (toLower back).filter (!isSeparator ·) := by
  have hFrontAscii : ∀ c ∈ front, c.toNat < 128 := fun c hc => hAscii c (by simp [hc])
  have hBackAscii : ∀ c ∈ back, c.toNat < 128 := fun c hc => hAscii c (by simp [hc])
  have hFree : ∀ part ∈ kebabParts (wordsFrom none (front ++ a :: b :: back)), '-' ∉ part :=
    fun part hPart => hyphen_not_mem_kebabParts hAscii hPart
  obtain ⟨words, left, right, more, hFront, hBack, hWords⟩ :=
    exists_wordsFrom_eq none front back ha hb
  rw [startsWord_ascii (hAscii a (by simp)) (hAscii b (by simp)) hBackAscii] at hWords
  rw [hWords, List.append_assoc, kebabParts_append, kebabParts_append, kebabParts_neighbours]
    at hFree ⊢
  have hWordsFree : ∀ part ∈ kebabParts words, '-' ∉ part :=
    fun part hPart => hFree part (by simp [hPart])
  have hMoreFree : ∀ part ∈ kebabParts more, '-' ∉ part :=
    fun part hPart => hFree part (by simp [hPart])
  obtain ⟨tail, hTail, hTailKept⟩ := exists_join_neighbours (opensWord a b back.head?) a.toLower
    b.toLower (left.map Char.toLower) (right.map Char.toLower) hMoreFree
  have hNe : neighbours (opensWord a b back.head?) a.toLower b.toLower (left.map Char.toLower)
      (right.map Char.toLower) ++ kebabParts more ≠ [] := by
    cases opensWord a b back.head? <;> simp [neighbours]
  obtain ⟨outer, hOuter, hOuterKept⟩ := exists_join_append hNe hWordsFree
  -- What stands beside the neighbours in their words is no separator, as it is kept.
  have hLeft : ∀ c ∈ left, c.toNat < 128 ∧ isSeparator c = false := by
    intro c hc
    have hMem : c ∈ front.filter (!isSeparator ·) := hFront ▸ List.mem_append_right _ hc
    exact ⟨hFrontAscii c (List.mem_filter.mp hMem).1, by simpa using (List.mem_filter.mp hMem).2⟩
  have hRight : ∀ c ∈ right, c.toNat < 128 ∧ isSeparator c = false := by
    intro c hc
    have hMem : c ∈ back.filter (!isSeparator ·) := hBack ▸ List.mem_append_left _ hc
    exact ⟨hBackAscii c (List.mem_filter.mp hMem).1, by simpa using (List.mem_filter.mp hMem).2⟩
  refine ⟨outer ++ left.map Char.toLower, right.map Char.toLower ++ tail, ?_, ?_, ?_⟩
  · rw [hOuter, hTail, List.append_assoc]
  · rw [List.filter_append, hOuterKept, flatten_kebabParts, filter_map_toLower hLeft,
      ← List.map_append, hFront, filter_toLower hFrontAscii]
  · rw [List.filter_append, hTailKept, flatten_kebabParts, filter_map_toLower hRight,
      ← List.map_append, hBack, filter_toLower hBackAscii]

theorem kebabParts_eq_self {words : List (List Char)}
    (hWords : ∀ word ∈ words, word ≠ [] ∧ ∀ c ∈ word, c.toLower = c) :
    kebabParts words = words := by
  have hFilter : words.filter (!·.isEmpty) = words :=
    List.filter_eq_self.mpr fun word hWord => by simpa using (hWords word hWord).1
  rw [kebabParts, hFilter]
  refine (List.map_congr_left fun word hWord => ?_).trans (List.map_id words)
  exact (List.map_congr_left (hWords word hWord).2).trans (List.map_id word)

/-- The parts of a form are what stands between its hyphens, and they are its words again. -/
theorem join_kebabParts_split {parts : List (List Char)}
    (hParts : ∀ part ∈ parts, part ≠ [] ∧ ∀ c ∈ part, c.toLower = c)
    (hFree : ∀ part ∈ parts, '-' ∉ part) :
    join '-' (kebabParts (split (· == '-') (join '-' parts))) = join '-' parts := by
  by_cases hNil : parts = []
  · subst hNil
    rfl
  · rw [split_join '-' parts hNil hFree, kebabParts_eq_self hParts]

/-- **Kebab case of ASCII texts.**  The form has small letters only, single hyphens between words and
no other separators; it loses nothing but separators, and it has a hyphen between two neighbours of
the text exactly where a word starts.  The form of the form is the form. -/
theorem ascii_text_in_kebab_case {s : String} (hAscii : ∀ c ∈ s.toList, c.toNat < 128) :
    IsKebabOf s.toList (kebab s).toList ∧ kebab (kebab s) = kebab s := by
  have hForm := kebab_of_ascii hAscii
  have hParts : ∀ part ∈ kebabParts (wordsFrom none s.toList), part ≠ [] ∧ '-' ∉ part :=
    fun part hPart => ⟨(of_mem_kebabParts hAscii hPart).1, hyphen_not_mem_kebabParts hAscii hPart⟩
  have hEach : ∀ c ∈ (kebab s).toList,
      c.toNat < 128 ∧ c.isUpper = false ∧ isSeparator c = (c == '-') :=
    fun c hc => of_mem_join_kebabParts hAscii (hForm ▸ hc)
  constructor
  · have hTrimmed : IsTrimmed (· == '-') (kebab s).toList := by
      rw [hForm]
      exact isTrimmed_join fun part hPart =>
        ⟨(hParts part hPart).1, isTrimmed_of_not_mem (hParts part hPart).2⟩
    exact {
      small := fun c hc => (hEach c hc).2.1
      plain := ⟨fun hMem => absurd (hEach '_' hMem).2.2 (by decide),
        fun hMem => absurd (hEach ' ' hMem).2.2 (by decide)⟩
      first := fun hHyphen => by simpa using hTrimmed.first '-' hHyphen
      last := fun hHyphen => by simpa using hTrimmed.last '-' hHyphen
      single := hForm ▸ not_infix_join hParts
      kept := by
        rw [hForm, filter_join fun part hPart => (hParts part hPart).2, flatten_kebabParts,
          flatten_wordsFrom, filter_toLower hAscii]
      between := by
        intro front a b back hSource ha hb
        rw [hForm, hSource]
        exact exists_between (hSource ▸ hAscii) ha hb }
  · -- The form has no capitals, so its words are the pieces between its hyphens.
    have hSmall : ∀ c ∈ (kebab s).toList, isUpper [c] = false := by
      intro c hc
      rw [isUpper_ascii (hEach c hc).1]
      exact (hEach c hc).2.1
    have hPieces : wordsFrom none (kebab s).toList = split (· == '-') (kebab s).toList := by
      rw [wordsFrom_eq_split hSmall, split_congr fun c hc => (hEach c hc).2.2]
    rw [← String.toList_inj, kebab_of_ascii fun c hc => (hEach c hc).1, hPieces, hForm]
    refine join_kebabParts_split (fun part hPart => ?_) fun part hPart => (hParts part hPart).2
    obtain ⟨hNe, hEach⟩ := of_mem_kebabParts hAscii hPart
    exact ⟨hNe, fun c hc => (hEach c hc).2.2.1⟩

/-- An acronym, a number and separators of all three kinds in one name. -/
theorem sample_name_in_kebab_case :
    (∀ c ∈ "_GetHTTPStatus2XX  by-ID".toList, c.toNat < 128) ∧
      IsKebabOf "_GetHTTPStatus2XX  by-ID".toList "get-http-status2-xx-by-id".toList := by
  have hAll : "_GetHTTPStatus2XX  by-ID".toList.all (·.toNat < 128) = true := by decide +kernel
  have hAscii : ∀ c ∈ "_GetHTTPStatus2XX  by-ID".toList, c.toNat < 128 :=
    fun c hc => of_decide_eq_true (List.all_eq_true.mp hAll c hc)
  have hKebab : kebab "_GetHTTPStatus2XX  by-ID" = "get-http-status2-xx-by-id" := by
    decide +kernel
  exact ⟨hAscii, hKebab ▸ (ascii_text_in_kebab_case hAscii).1⟩

/-! ### Names of which nothing is left -/

theorem toLower_ne_nil {cs : List Char} (hNe : cs ≠ []) : toLower cs ≠ [] := by
  obtain ⟨c, rest, rfl⟩ := List.exists_cons_of_ne_nil hNe
  have hLower : lowerChar c ≠ [] := by
    unfold lowerChar
    split_ifs <;> simp
  simp only [toLower, lowerAfter]
  split_ifs <;> simp [hLower]

theorem words_eq_nil_iff (cs : List Char) :
    words cs = [] ↔ (wordsAfter none (clusters cs)).flatten = [] := by
  simp [words, List.filter_eq_nil_iff, List.flatten_eq_nil_iff]

/-- The kebab-case form is empty only for texts of separators, whatever else a text may hold. -/
theorem kebab_eq_empty_iff (s : String) :
    kebab s = "" ↔ ∀ c ∈ s.toList, isSeparator c = true := by
  have hWords : kebab s = "" ↔ words s.toList = [] := by
    rw [← String.toList_inj, kebab, String.toList_ofList, String.toList_empty, join_eq_nil_iff]
    · exact List.map_eq_nil_iff
    · intro part hPart
      obtain ⟨word, hWord, rfl⟩ := List.mem_map.mp hPart
      exact toLower_ne_nil (by simpa using (List.mem_filter.mp hWord).2)
  rw [hWords, words_eq_nil_iff]
  constructor
  · intro hNone c hc
    obtain ⟨hAll, hNoEmpty⟩ := flatten_clustersAfter none s.toList
    rw [← hAll] at hc
    obtain ⟨cluster, hCluster, hc⟩ := List.mem_flatten.mp hc
    -- A cluster that separates no words would be kept.
    have hSep : isWordSeparator cluster = true := by
      by_contra hPlain
      rw [flatten_wordsAfter, List.flatten_eq_nil_iff] at hNone
      have hKept := hNone cluster (List.mem_filter.mpr ⟨hCluster, by simpa using hPlain⟩)
      exact hNoEmpty (hKept ▸ hCluster)
    obtain ⟨d, rfl, hSep⟩ := exists_of_isWordSeparator hSep
    rwa [List.mem_singleton.mp hc]
  · intro hAll
    have hAscii : ∀ c ∈ s.toList, c.toNat < 128 := by
      intro c hc
      have hSep := hAll c hc
      simp only [isSeparator, Bool.or_eq_true, beq_iff_eq] at hSep
      rcases hSep with (rfl | rfl) | rfl <;> decide
    have hFlatten := flatten_wordsFrom none s.toList
    rw [(isLineCut_clusters hAscii).wordsAfter_eq]
    exact hFlatten.trans (List.filter_eq_nil_iff.mpr fun c hc => by simp [hAll c hc])

end Text
end Switchboard
