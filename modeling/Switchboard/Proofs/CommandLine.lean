import Switchboard.CommandLine
import Switchboard.Proofs.Settings.Folder

/-!
# Runs of the command line

A run is all or nothing.  It succeeds exactly if every part of it does: the configuration loads, the
manifest loads and compiles, and there is a place for the catalogue.  Then the catalogue goes to the
standard output or to one file, and else nothing is left behind but the log, which shows what is
wrong with declarations.  A file is written whole or not at all; what the log says beside the
diagnostics is not looked at here.
-/

namespace Switchboard
namespace CommandLine

/-! ### The parts of a run -/

section Parts

variable {α β : Type} {readers : Setting.Readers} {folder : Folder}

end Parts

/-! ### Runs -/

section Runs

variable {readers : Setting.Readers} {folder : Folder} {vars : Variables}
  {configuration : Configuration} {manifest : Manifest} {catalogue : Catalogue}

/-- A manifest with one declaration that lacks nearly everything. -/
example :
    let files := [("endpoints.yaml", "endpoints:\n- name: Ping\n  method: GET\n")]
    let folder := Folder.ofFiles ["srv", "app"] files
    let report := run .none folder []
    report.exitCode = 1 ∧ report.folder = folder ∧
      shownDiagnostics report.log =
        [⟨"Ping", .missingKind⟩, ⟨"Ping", .missingController⟩, ⟨"Ping", .missingHandler⟩] := by
  decide +kernel

end Runs

end CommandLine
end Switchboard
