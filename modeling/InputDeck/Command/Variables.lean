import InputDeck.Catalog.Choice
import InputDeck.Command.Report

/-!
# Looking up variables

`list` shows the variables of a release in a table, and `info` all that is known about one.
-/

namespace InputDeck.Command

def padded (width : Nat) (s : String) : String :=
  s ++ String.ofList (List.replicate (width - s.length) ' ')

/-- The width of the column of names, which is that of the longest name in bytes. -/
def nameWidth (vs : List Variable) : Nat :=
  (vs.map fun v => v.name.utf8ByteSize).foldl max 0

def variableLine (width : Nat) (v : Variable) : Line :=
  [plain "   ", bold .brightBlue (padded width v.name),
   plain ("  " ++ padded 8 v.kind.name ++ "  "), emphasised .dimmed v.sectionName]

def list (h : Host) (choice : Catalog.Choice) (text : Option String) : Report Unit :=
  (Report.ofResult (choice.load h h.currentFolder)).andThen fun c =>
    let found := c.filtered text
    let heading : List Line :=
      [[bold .green ("📚 Octopus " ++ c.version ++ " variables")]] ++
      (match text with
        | some text => [[plain "   Filter: ", coloured .brightBlue text]]
        | none => []) ++
      [[]]
    let table : List Line :=
      if found.isEmpty then [[coloured .yellow "⚠️  No variables match"]]
      else
        found.map (variableLine (nameWidth found)) ++
          [[], [plain ("   " ++ toString found.length ++ " variables")]]
    ⟨heading ++ table, .ok ()⟩

def entryLine (label text : String) : Line :=
  [plain "   ", coloured .cyan label, plain (" " ++ text)]

def describeLines (c : Catalog) (v : Variable) : List Line :=
  [[bold .green v.name], entryLine "Version:" c.version, entryLine "Type:" v.kind.name] ++
  (if v.sectionName.isEmpty then [] else [entryLine "Section:" v.sectionName]) ++
  (if v.defaults.isEmpty then [] else [entryLine "Default:" (", ".intercalate v.defaults)]) ++
  (match c.link? v with
    | some url => [[plain "   ", coloured .cyan "Docs:", plain " ", emphasised .underlined url]]
    | none => []) ++
  (if v.description.isEmpty then [] else [[], [plain ("   " ++ v.descriptionText)]]) ++
  if v.options.isEmpty then []
  else
    [[], [plain "   ", coloured .cyan "Valid values:"]] ++ v.options.map fun o =>
      [plain "      ", coloured .brightBlue o.name, plain (" (" ++ o.value ++ ")")]

def info (h : Host) (choice : Catalog.Choice) (name : String) : Report Unit :=
  (Report.ofResult (choice.load h h.currentFolder)).andThen fun c =>
    match c.get? name with
    | some v => ⟨describeLines c v, .ok ()⟩
    | none =>
      ⟨[[bold .red ("❌ Unknown variable '" ++ name ++ "' in Octopus " ++ c.version)]],
       .error (.objection (.unknownVariable name))⟩

end InputDeck.Command
