import InputDeck.CommandLine.Invocation

/-!
# The files that a command looks at

They come in two rounds, as the settings say where to look further.
-/

namespace InputDeck.CommandLine

open InputDeck.Command

def Invocation.start (i : Invocation) (h : Host) : Path :=
  match i.task with
  | .check (first :: _) => settingsRoot h first
  | .watch file _ => settingsRoot h file
  | .detectVersion (some file) _ => settingsRoot h file
  | _ => h.currentFolder

def versionFiles (h : Host) (roots : List Path) : List Path :=
  (if roots.isEmpty then [h.currentFolder] else roots).flatMap fun root =>
    Version.workspaceFiles.map root.join

def withFolders (p : Path) : List Path :=
  p.ancestors.reverse

/-- The files that the arguments name, the program that is asked for its version, and the settings
of the project. -/
def Invocation.inputs (i : Invocation) (h : Host) : List Path :=
  let named := match i.task with
    | .check files => files
    | .watch file _ => [file]
    | .detectVersion file roots =>
      file.toList ++ versionFiles h roots ++ h.programPaths Version.Probe.standard.program
    | .importVarinfo input _ output _ => input :: output.toList.flatMap withFolders
    | .exportGrammar output => output.toList.flatMap withFolders
    | _ => []
  named ++ (i.start h).ancestors.map (·.join Settings.fileName)

def Invocation.dataFiles (i : Invocation) (h : Host) : List Path :=
  match i.choice.resolve h (i.start h) with
  | .error _ => []
  | .ok (version, folder) =>
    let further := match i.task with
      | .importVarinfo _ version _ _ => [version]
      | .detectVersion file roots =>
        match (detectVersion h i.choice file roots).2.result with
        | .ok (some version) => [version]
        | _ => []
      | _ => []
    folder.toList.flatMap fun folder =>
      (version :: further).flatMap fun version =>
        withFolders (folder.join (Catalog.dataFileName version))

end InputDeck.CommandLine
