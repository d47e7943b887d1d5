import InputDeck.CommandLine.Invocation

/-!
# Running the program

The whole program as a function of its arguments, its environment and the host.
-/

namespace InputDeck.CommandLine

open InputDeck.Command

def programVersion : String := "octo 0.3.0"

def helpText : String :=
  "Check Octopus input files against the variables of an Octopus release.\n\n" ++
  "Usage: octo [--octopus-version <VERSION>] [--data-dir <FOLDER>] <COMMAND>\n\nCommands:\n" ++
  String.join ((forms.map Form.name).map fun name => "  " ++ name ++ "\n")

structure Ending where
  host : Host
  lines : List Line
  result : Except Error Unit

def Ending.ofReport {α : Type} (h : Host) (r : Report α) : Ending :=
  ⟨h, r.lines, r.result.map fun _ => ()⟩

/-- Runs a command. Watching ends here after its first check. -/
def Invocation.run (i : Invocation) (h : Host) : Ending :=
  match i.task with
  | .check files => .ofReport h (check h i.choice files)
  | .watch file verbose => .ofReport h (watch h i.choice file verbose)
  | .list filter => .ofReport h (list h i.choice filter)
  | .info name => .ofReport h (info h i.choice name)
  | .detectVersion file roots =>
    let (next, report) := detectVersion h i.choice file roots
    .ofReport next report
  | .importVarinfo input version output verbose =>
    let (next, report) := importVarinfo h i.choice input version output verbose
    .ofReport next report
  | .exportGrammar output =>
    let (next, report) := exportGrammar h i.choice output
    .ofReport next report

/-- Colours are off unless the environment asks for them. -/
def wantsColours (env : Environment) : Bool :=
  match env.lookup "CLICOLOR_FORCE" with
  | some value => value != "0"
  | none => false

structure Exit where
  code : Nat
  output : String
  error : Option Error
  host : Host

def run (env : Environment) (h : Host) (args : List String) : Exit :=
  match read env args with
  | .error .usage => ⟨2, "", none, h⟩
  | .error .help => ⟨0, helpText, none, h⟩
  | .error .version => ⟨0, programVersion ++ "\n", none, h⟩
  | .ok invocation =>
    let ending := invocation.run h
    let output := renderLines (wantsColours env) ending.lines
    match ending.result with
    | .ok () => ⟨0, output, none, ending.host⟩
    | .error e => ⟨1, output, some e, ending.host⟩

end InputDeck.CommandLine
