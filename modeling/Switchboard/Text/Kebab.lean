import Switchboard.Text.Cluster
import Switchboard.Text.Split

/-!
# Kebab case

Words of an identifier begin at a capital after a small letter or a digit, and before the last
capital of a run that a small letter follows; hyphens, underscores and blanks separate words and
vanish.  The words in small letters, joined by hyphens, are the kebab-case form.
-/

namespace Switchboard
namespace Text

/-- A cluster that is a capital: it has case, and it is its own upper-case form. -/
def isUpper (cluster : List Char) : Bool :=
  toUpper cluster != toLower cluster && cluster == toUpper cluster

/-- A cluster that is a small letter: it has case, and it is its own lower-case form. -/
def isLower (cluster : List Char) : Bool :=
  toUpper cluster != toLower cluster && cluster == toLower cluster

/-- A cluster made of the digits 0 to 9. -/
def isDigit (cluster : List Char) : Bool :=
  cluster.all Char.isDigit

/-- A cluster that separates words and belongs to none. -/
def isWordSeparator (cluster : List Char) : Bool :=
  cluster == ['-'] || cluster == ['_'] || cluster == [' ']

/-- Whether a word starts at `this`, which stands between `before` and `after`. -/
def startsWord (before : Option (List Char)) (this : List Char) (after : Option (List Char)) :
    Bool :=
  match before with
  | none => false
  | some before =>
    isUpper this &&
      (isLower before || isDigit before || (isUpper before && after.any isLower))

/-- The words of a sequence of clusters, where `before` stands in front of it; the first word is
the end of the word that is being read. -/
def wordsAfter : Option (List Char) → List (List Char) → List (List Char)
  | _, [] => [[]]
  | before, this :: rest =>
    let words := wordsAfter (some this) rest
    if isWordSeparator this then [] :: words
    else
      let extended :=
        match words with
        | [] => [this]
        | word :: words => (this ++ word) :: words
      if startsWord before this rest.head? then [] :: extended else extended

/-- The words of a text. -/
def words (cs : List Char) : List (List Char) :=
  (wordsAfter none (clusters cs)).filter (!·.isEmpty)

/-- The words of a text in small letters with hyphens between them. -/
def kebab (s : String) : String :=
  String.ofList (join '-' ((words s.toList).map toLower))

end Text
end Switchboard
