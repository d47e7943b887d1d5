import InputDeck.Catalog.Choice
import InputDeck.Command.Report
import InputDeck.Finding

/-!
# Checking files

`check` reports the refused values of files, and `watch` does so for one file that is being edited.
The catalog is the one that is in force for the first file.
-/

namespace InputDeck.Command

def settingsRoot (h : Host) (file : Path) : Path :=
  match file.parent? with
  | some parent => if parent.isEmpty then h.currentFolder else parent
  | none => h.currentFolder

def checkFile (h : Host) (c : Catalog) (file : Path) : Except Error (List Finding) :=
  (ofHost (h.readText file)).map c.scanText

def findingLine (file : Path) (f : Finding) : Line :=
  [plain "   ", coloured .brightBlue file.text, plain ":",
   coloured .brightBlue (toString (f.line + 1) ++ ":" ++ toString (f.startColumn + 1)), plain " ",
   coloured .red f.message]

structure Tally where
  values : Nat
  files : Nat
  deriving DecidableEq, Repr

def Tally.add (t : Tally) (findings : List Finding) : Tally :=
  if findings.isEmpty then t else ⟨t.values + findings.length, t.files + 1⟩

def checkedLines (file : Path) (findings : List Finding) : List Line :=
  if findings.isEmpty then [[plain "   ", coloured .green "✓", plain (" " ++ file.text)]]
  else [plain "   ", coloured .red "✗", plain (" " ++ file.text)] :: findings.map (findingLine file)

/-- Checks files one after another, up to the first that cannot be read. -/
def checkEach (h : Host) (c : Catalog) : List Path → Report Tally
  | [] => ⟨[], .ok ⟨0, 0⟩⟩
  | file :: files =>
    match checkFile h c file with
    | .error e =>
      ⟨[[bold .red ("❌ Cannot read " ++ file.text ++ ": " ++ e.message)]], .error e⟩
    | .ok findings =>
      let rest := checkEach h c files
      ⟨checkedLines file findings ++ rest.lines, rest.result.map (·.add findings)⟩

def concludeCheck (t : Tally) : Report Unit :=
  if t.values = 0 then ⟨[[], [bold .green "✅ All values are valid!"]], .ok ()⟩
  else
    ⟨[[],
      [bold .red ("❌ Found " ++ toString t.values ++ " invalid values in " ++ toString t.files ++
        " file(s)")],
      [bold .yellow "💡 Run 'octo info <Variable>' to see what a variable accepts"]],
     .error (.objection (.invalidValues t.values t.files))⟩

def check (h : Host) (choice : Catalog.Choice) (files : List Path) : Report Unit :=
  match files with
  | [] => .ofResult (.error (.objection .noInput))
  | first :: _ =>
    (Report.ofResult (choice.load h (settingsRoot h first))).andThen fun c =>
      ((checkEach h c files).andThen concludeCheck).after
        [[bold .green "✅ Checking Octopus input"],
         [plain ("   Version: Octopus " ++ c.version ++ " (" ++ toString c.size ++ " variables)")],
         []]

/-! ## Watching -/

def watchedLines (h : Host) (c : Catalog) (file : Path) : List Line :=
  match checkFile h c file with
  | .error e => [[bold .red "❌ Check failed:", plain (" " ++ e.message)]]
  | .ok [] => [[bold .green "✅ All values are valid"]]
  | .ok findings =>
    [bold .red ("❌ " ++ toString findings.length ++ " invalid values")] ::
      findings.map (findingLine file)

def hasFolder (h : Host) (file : Path) : Except Error Unit :=
  match h.locate file with
  | .error fault => .error (.host fault)
  | .ok [] => .error (.objection .noParent)
  | .ok (_ :: _) => .ok ()

/-- Starts to watch a file: the greeting and the first check. The result is the catalog that further
checks use. -/
def watch (h : Host) (choice : Catalog.Choice) (file : Path) (verbose : Bool) : Report Catalog :=
  let greeting : List Line :=
    [[bold .green "👁️  Octopus - Watch Mode"],
     [plain ("   Watching: " ++ file.text)],
     [plain "   Press ", bold .yellow "Ctrl+C", plain " to stop"],
     []]
  let start : Report Catalog :=
    if h.holds file then .ofResult (choice.load h (settingsRoot h file))
    else .ofResult (.error (.objection (.fileNotFound file)))
  let watching : Report Catalog := start.andThen fun c =>
    let used : List Line :=
      if verbose then
        [[plain "   ", coloured .cyan "Using version:", plain (" Octopus " ++ c.version)]]
      else []
    (Report.ofResult (hasFolder h file)).andThen (fun () =>
      ⟨[coloured .cyan "🔄 Initial run..."] :: watchedLines h c file, .ok c⟩) |>.after used
  watching.after greeting

end InputDeck.Command
