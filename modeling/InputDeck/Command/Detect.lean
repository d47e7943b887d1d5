import InputDeck.Command.Check
import InputDeck.Version.Detection

/-!
# Detecting the version
-/

namespace InputDeck.Command

def availabilityLines (versions : List String) (version : String) : List Line :=
  if version ∈ versions then []
  else [[coloured .yellow ("⚠️  No variable information available for " ++ version)]]

def detectionReport (h : Host) (choice : Catalog.Choice) (file : Option Path) :
    Option String → Report (Option String)
  | none => ⟨[[coloured .yellow "⚠️  Could not detect Octopus version"]], .ok none⟩
  | some version =>
    let start := (file.map (settingsRoot h)).getD h.currentFolder
    ((Report.ofResult (choice.availableVersions h start)).andThen fun versions =>
      ⟨availabilityLines versions version, .ok (some version)⟩).after
        [[bold .green ("✅ Detected Octopus " ++ version)]]

/-- Looks for the version in use: the installed program, a marker in the file, and the version files
of the given folders or else of the working folder. The installed program may change the host. -/
def detectVersion (h : Host) (choice : Catalog.Choice) (file : Option Path) (roots : List Path) :
    Host × Report (Option String) :=
  let document : Except Error (Option String) :=
    match file with
    | none => .ok none
    | some path => (ofHost (h.readText path)).map some
  let lead : List Line := [[bold .green "🔍 Detecting Octopus version"]]
  match document with
  | .error e => (h, ⟨lead, .error e⟩)
  | .ok document =>
    let roots := if roots.isEmpty then [h.currentFolder] else roots
    let (installed, h) := Version.Probe.standard.ask h
    let detected := Version.detect? h installed document roots
    (h, (detectionReport h choice file detected).after lead)

end InputDeck.Command
