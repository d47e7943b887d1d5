import InputDeck.Catalog.Choice
import InputDeck.Command.Report
import InputDeck.Highlighting
import InputDeck.Json.Printer
import InputDeck.Varinfo.Import

/-!
# Commands that write files

`exportGrammar` writes the grammar for an editor, and `importVarinfo` the data file of a release.
Both return the host that they leave behind.
-/

namespace InputDeck.Command

def exportGrammar (h : Host) (choice : Catalog.Choice) (output : Option Path) :
    Host × Report Unit :=
  match choice.load h h.currentFolder with
  | .error e => (h, .ofResult (.error e))
  | .ok c =>
    let text := (Highlighting.grammar c).pretty
    match output with
    | none => (h, ⟨[[plain text]], .ok ()⟩)
    | some path =>
      match h.writeText path text with
      | .error fault => (h, .ofResult (.error (.host fault)))
      | .ok next => (next, ⟨[[bold .green ("✅ Wrote grammar to " ++ path.text)]], .ok ()⟩)

def sectionCount (c : Catalog) : Nat :=
  ((c.toList.map Variable.sectionName).filter (· != "")).eraseDups.length

/-- Writes a file and, before that, makes the folder it goes to. -/
def writeInFolder (h : Host) (target : Path) (text : String) : Host × Except Error Unit :=
  let made : Except Host.Fault Host := match target.parent? with
    | none => .ok h
    | some parent => if parent.isEmpty then .ok h else h.makeFolders parent
  match made with
  | .error fault => (h, .error (.host fault))
  | .ok base =>
    match base.writeText target text with
    | .error fault => (base, .error (.host fault))
    | .ok next => (next, .ok ())

def importVarinfo (h : Host) (choice : Catalog.Choice) (input : Path) (version : String)
    (output : Option Path) (verbose : Bool) : Host × Report Path :=
  let heading : List Line :=
    [[bold .green "📥 Octopus varinfo import"], [plain ("   Input:   " ++ input.text)],
     [plain ("   Version: " ++ version)], []]
  match Varinfo.importFile h input version with
  | .error e => (h, ⟨heading, .error e⟩)
  | .ok imported =>
    let count := toString imported.catalog.size
    let found : List Line :=
      if verbose then
        [[plain ("   Found " ++ count ++ " variables")],
         [plain ("   Found " ++ toString (sectionCount imported.catalog) ++ " sections")], []]
      else []
    match choice.resolve h h.currentFolder with
    | .error e => (h, ⟨heading ++ found, .error e⟩)
    | .ok (_, folder) =>
      let target := Varinfo.targetPath version output folder
      match writeInFolder h target imported.file with
      | (next, .error e) => (next, ⟨heading ++ found, .error e⟩)
      | (next, .ok ()) =>
        let advice : List Line :=
          if output.isSome && folder.isNone then
            [[coloured .yellow "💡 Use --data-dir with the file's directory to load it"]]
          else []
        (next,
         ⟨heading ++ found ++
            [[bold .green ("✅ Imported " ++ count ++ " variables for Octopus " ++ version)],
             [plain ("   Data file: " ++ target.text)]] ++ advice,
          .ok target⟩)

end InputDeck.Command
