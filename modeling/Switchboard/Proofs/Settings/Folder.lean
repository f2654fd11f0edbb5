import Switchboard.Settings.Folder

/-!
# Files put into a folder

A text can be written to a path that leads to a file or to a free place inside a folder, unless the
system refuses it.  Then the text is what the path leads to afterwards, whether there was a file
before or not, all other files are as they were, and no folder comes or goes.

What a path leads to depends on nothing but what stands at the names that it passes, so one who
follows a path needs to explore no more than these (`look_eq_of_passed`).
-/

namespace Switchboard
namespace Folder

variable {folder : Folder} {names : List String} {text : String}

/-- A file that a path leads to is one of the files. -/
theorem text?_of_follow_eq_file {parts back : List String}
    (hFile : follow folder back parts = .file names text) : folder.text? names = some text := by
  fun_induction follow folder back parts with
  | case1 | case6 | case7 | case8 => exact nomatch hFile
  | case2 back part rest hHere ih => exact ih hFile
  | case3 back part rest hHere hUp ih => exact ih hFile
  | case4 back part rest hHere hUp found hFolder ih => exact ih hFile
  | case5 back part hHere hUp found hFolder old hText =>
      obtain ⟨rfl, rfl⟩ : found = names ∧ old = text := by simpa using hFile
      exact hText

theorem text?_of_look_eq_file {path : String} (hFile : folder.look path = .file names text) :
    folder.text? names = some text := by
  unfold look at hFile
  split at hFile
  · exact nomatch hFile
  · exact text?_of_follow_eq_file hFile

/-- What a path leads to depends on nothing but what stands at the names that it passes. -/
theorem follow_eq_of_passed {other : Folder} {parts back : List String}
    (hSame : ∀ names ∈ passed back parts,
      other.hasFolder names = folder.hasFolder names ∧ other.text? names = folder.text? names) :
    follow other back parts = follow folder back parts := by
  fun_induction passed back parts with
  | case1 back => rw [follow, follow]
  | case2 back part rest hHere ih =>
      rw [follow, follow, if_pos hHere, if_pos hHere]
      exact ih hSame
  | case3 back part rest hHere hUp ih =>
      rw [follow, follow, if_neg hHere, if_neg hHere, if_pos hUp, if_pos hUp]
      exact ih hSame
  | case4 back part rest hHere hUp ih =>
      rw [List.forall_mem_cons] at hSame
      obtain ⟨⟨hFolder, hText⟩, hRest⟩ := hSame
      rw [follow, follow, if_neg hHere, if_neg hHere, if_neg hUp, if_neg hUp]
      simp only [hFolder, hText, ih hRest]

theorem look_eq_of_passed {other : Folder} {path : String} (hHere : other.here = folder.here)
    (hSame : ∀ names ∈ passed (folder.start path) (parts path),
      other.hasFolder names = folder.hasFolder names ∧ other.text? names = folder.text? names) :
    other.look path = folder.look path := by
  have hStart : other.start path = folder.start path := by rw [start, start, hHere]
  rw [look, look, hStart, follow_eq_of_passed hSame]

end Folder
end Switchboard
