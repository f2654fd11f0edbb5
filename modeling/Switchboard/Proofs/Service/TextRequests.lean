import Switchboard.Proofs.Document.TextRecord
import Switchboard.Sample.Contents

/-!
# Types of request that are records of texts

A type of request is a record of texts if it is read as the record both from JSON and from form data.
The sample types of request that hold two texts are such records.  They are read into drafts of their
own, and these hold what the drafts of the records hold.
-/

namespace Switchboard

open Dispatch (RequestType)
open Document (Dialect TextDraft TextField TextRecord required)
open Http (formDialect)
open Sample (Contents TwoTextsDraft readTwoTexts recordType)

namespace Service

variable {ρ V ε : Type}

/-- The type of request is read as the record, from JSON and from form data. -/
structure Describes (record : TextRecord ρ) (type : RequestType ρ) : Prop where
  ofJson_eq : ∀ value, type.ofJson value = record.read Json.dialect value
  ofForm_eq : ∀ value, type.ofForm value = record.read formDialect value

/-- A type of request that is read as the record in any dialect is described by it. -/
theorem Describes.of_recordType {record : TextRecord Contents} {name : String}
    {read : {V ε : Type} → Dialect V ε → V → Except ε Contents}
    (hRead : ∀ {V ε : Type} (dialect : Dialect V ε) (value : V),
      record.read dialect value = read dialect value) :
    Describes record (recordType name read) where
  ofJson_eq value := (hRead Json.dialect value).symm
  ofForm_eq value := (hRead formDialect value).symm

/-! ### Two texts -/

/-- A request with two texts as a record. -/
def twoTextsRecord (type first second : String) (hNames : first ≠ second)
    (make : String → String → Contents) : TextRecord Contents where
  name := type
  fields := [⟨first, false, false⟩, ⟨second, false, false⟩]
  names_nodup := by simpa using hNames
  make texts := make ((texts first).getD "") ((texts second).getD "")

/-- A draft of two texts holds what a draft of texts holds. -/
def HoldsTwo (first second : String) (draft : TextDraft) (draft' : TwoTextsDraft) : Prop :=
  draft first = draft'.first.map some ∧ draft second = draft'.second.map some

theorem read_twoTextsRecord {type first second : String} (hNames : first ≠ second)
    (make : String → String → Contents) (dialect : Dialect V ε) (value : V) :
    (twoTextsRecord type first second hNames make).read dialect value =
      readTwoTexts type first second make dialect value := by
  refine (twoTextsRecord type first second hNames make).read_eq (HoldsTwo first second)
    (.cons (TextField.isAlike_of_required _ rfl ?getFirst ?setFirst)
      (.cons (TextField.isAlike_of_required _ rfl ?getSecond ?setSecond) .nil))
    ⟨rfl, rfl⟩ ?finish value
  case getFirst =>
    intro draft draft' hStands
    rw [hStands.1, Option.isSome_map]
  case setFirst =>
    intro text draft draft' hStands
    exact ⟨Function.update_self .., (Function.update_of_ne hNames.symm ..).trans hStands.2⟩
  case getSecond =>
    intro draft draft' hStands
    rw [hStands.2, Option.isSome_map]
  case setSecond =>
    intro text draft draft' hStands
    exact ⟨(Function.update_of_ne hNames ..).trans hStands.1, Function.update_self ..⟩
  case finish =>
    rintro draft ⟨one, other⟩ ⟨hOne, hOther⟩
    cases one <;> cases other <;>
      simp [TextRecord.finish, twoTextsRecord, TextField.isMissing, required, hOne, hOther, bind,
        Except.bind, pure, Except.pure]

theorem describes_twoTexts (type : String) {first second : String} (hNames : first ≠ second)
    (make : String → String → Contents) :
    Describes (twoTextsRecord type first second hNames make)
      (recordType type (readTwoTexts type first second make)) :=
  .of_recordType (read_twoTextsRecord hNames make)

end Service
end Switchboard
