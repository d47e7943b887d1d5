import InputDeck.Command.Check
import InputDeck.Command.Detect
import InputDeck.Command.Export
import InputDeck.Command.Variables
import InputDeck.CommandLine.Arguments

/-!
# Invocations

What the arguments and the environment of the program ask for. The release and the data folder may
be given before or after the name of the command, and else come from the environment.
-/

namespace InputDeck.CommandLine

inductive Task where
  | check (files : List Path)
  | watch (file : Path) (verbose : Bool)
  | list (filter : Option String)
  | info (name : String)
  | detectVersion (file : Option Path) (roots : List Path)
  | importVarinfo (input : Path) (version : String) (output : Option Path) (verbose : Bool)
  | exportGrammar (output : Option Path)
  deriving DecidableEq, Repr

structure Invocation where
  choice : Catalog.Choice
  task : Task
  deriving DecidableEq, Repr

abbrev Environment := List (String × String)

/-! ## The commands -/

def helpSwitch : Switch :=
  ⟨"help", some 'h', .help⟩

def versionSwitch : Switch :=
  ⟨"version", some 'V', .version⟩

def releaseSwitch : Switch :=
  ⟨"octopus-version", none, .valued .text⟩

def dataFolderSwitch : Switch :=
  ⟨"data-dir", none, .valued .path⟩

def verboseSwitch : Switch :=
  ⟨"verbose", some 'v', .flag⟩

def outputSwitch : Switch :=
  ⟨"output", some 'o', .valued .path⟩

structure Form where
  name : String
  switches : List Switch
  places : Places
  task? : Given → Option Task

def paths (values : List String) : List Path :=
  values.map Path.mk

def path? (g : Given) (long : String) : Option Path :=
  (g.value? long).map Path.mk

def forms : List Form := [
  { name := "check"
    switches := []
    places := ⟨.path, 1, none⟩
    task? := fun g => some (.check (paths g.positionals)) },
  { name := "watch"
    switches := [verboseSwitch]
    places := ⟨.path, 1, some 1⟩
    task? := fun g => g.positionals.head?.map fun file => .watch ⟨file⟩ (g.isSet "verbose") },
  { name := "vars"
    switches := [⟨"filter", some 'f', .valued .text⟩]
    places := ⟨.text, 0, some 0⟩
    task? := fun g => some (.list (g.value? "filter")) },
  { name := "info"
    switches := []
    places := ⟨.text, 1, some 1⟩
    task? := fun g => g.positionals.head?.map .info },
  { name := "detect-version"
    switches := [⟨"file", none, .valued .path⟩]
    places := ⟨.path, 0, none⟩
    task? := fun g => some (.detectVersion (path? g "file") (paths g.positionals)) },
  { name := "import-varinfo"
    switches := [⟨"version", none, .valued .text⟩, outputSwitch, verboseSwitch]
    places := ⟨.path, 1, some 1⟩
    task? := fun g =>
      match g.positionals.head?, g.value? "version" with
      | some input, some version =>
        some (.importVarinfo ⟨input⟩ version (path? g "output") (g.isSet "verbose"))
      | _, _ => none },
  { name := "grammar"
    switches := [outputSwitch]
    places := ⟨.text, 0, some 0⟩
    task? := fun g => some (.exportGrammar (path? g "output")) }]

def sharedSwitches : List Switch :=
  [releaseSwitch, dataFolderSwitch, helpSwitch]

/-! ## Reading -/

/-- A value given after the command goes before one given in front of it, and both before the
environment. -/
def shared? (env : Environment) (before after : Given) (long name : String) : Option String :=
  (after.value? long).or ((before.value? long).or (env.lookup name))

/-- The command `help` may name another command. -/
def readHelp (args : List String) : Halt :=
  match args with
  | [] => .help
  | [name] => if name == "help" || (forms.map Form.name).contains name then .help else .usage
  | _ => .usage

/-- The environment names no folder where the arguments, before or after the name of the command,
leave it to the environment. -/
def lacksFolder (env : Environment) (before after : Given) : Bool :=
  env.lookup "OCTOPUS_DATA_DIR" == some "" &&
    !(before.isSet dataFolderSwitch.long && after.isSet dataFolderSwitch.long)

def invocation? (env : Environment) (before after : Given) (f : Form) : Option Invocation :=
  let version := shared? env before after "octopus-version" "OCTOPUS_VERSION"
  let folder := shared? env before after "data-dir" "OCTOPUS_DATA_DIR"
  if lacksFolder env before after then none
  else (f.task? after).map fun task => ⟨⟨version, folder.map Path.mk⟩, task⟩

def read (env : Environment) (args : List String) : Except Halt Invocation :=
  match readLeading (versionSwitch :: sharedSwitches) none .empty args with
  | .error halt => .error halt
  | .ok (before, name, rest) =>
    match forms.find? (·.name == name) with
    | none => .error (if name == "help" then readHelp rest else .usage)
    | some form =>
      match readAll (form.switches ++ sharedSwitches) form.places none .empty rest with
      | .error halt => .error halt
      | .ok after =>
        match invocation? env before after form with
        | some invocation => .ok invocation
        | none => .error .usage

end InputDeck.CommandLine
