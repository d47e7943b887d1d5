import InputDeck.Error
import InputDeck.Settings.Basic
import InputDeck.Text.Blank
import InputDeck.Yaml.Node

/-!
# Settings of a project

A project keeps its settings in a file next to its input or in a folder above it. A relative data
folder is relative to the folder of that file.
-/

namespace InputDeck

namespace Yaml

def Document.text? (d : Document) (n : Node) : Option String :=
  match d.follow n with
  | .scalar _ _ text => some text
  | _ => none

def nullWords : List String := ["null", "Null", "NULL", "~"]

/-- A text, or none for a plain scalar that is blank or null. One with the tag of null has to be a
word for it, and one with any other tag is a text. -/
def Document.optionalText? (d : Document) (n : Node) : Option (Option String) :=
  match d.follow n with
  | .scalar .plain none text =>
    some (if text.isEmpty || nullWords.contains text then none else some text)
  | .scalar .plain (some tag) text =>
    if tag != .standard "null" then some (some text)
    else if nullWords.contains text then some none
    else none
  | .scalar _ _ text => some (some text)
  | _ => none

def flagWord? (text : String) : Option Bool :=
  if ["true", "True", "TRUE"].contains text then some true
  else if ["false", "False", "FALSE"].contains text then some false
  else none

/-- A flag is a plain scalar, or a literal block with the tag of flags. -/
def Document.flag? (d : Document) (n : Node) : Option Bool :=
  match d.follow n with
  | .scalar .plain _ text => flagWord? text
  | .scalar .literal tag text => if tag = some (.standard "bool") then flagWord? text else none
  | _ => none

/-- The members of a structure, whose keys are scalars; where nothing is written there are none. -/
def Document.members? (d : Document) (n : Node) : Option (List (String × Node)) :=
  match d.follow n with
  | .mapping members => members.mapM fun (key, value) => (d.text? key).map (·, value)
  | .scalar .plain _ "" => some []
  | _ => none

/-- The value of a key, or its default. A key that is given twice is refused. -/
def field? {α : Type} (members : List (String × Node)) (key : String) (decode? : Node → Option α)
    (default : α) : Option α :=
  match members.filter (·.1 == key) with
  | [] => some default
  | [(_, value)] => decode? value
  | _ => none

end Yaml

def HintSettings.ofNode? (d : Yaml.Document) (n : Yaml.Node) : Option HintSettings := do
  let members ← d.members? n
  let enabled ← Yaml.field? members "enabled" d.flag? default.enabled
  let showBuiltin ← Yaml.field? members "showBuiltin" d.flag? default.showBuiltin
  let showUser ← Yaml.field? members "showUser" d.flag? default.showUser
  return { enabled, showBuiltin, showUser }

namespace Settings

/-- The settings of a document; one that holds nothing gives the defaults. -/
def ofDocument? (d : Yaml.Document) : Option Settings := do
  let members ← d.members? (d.root.getD .blank)
  let version ← Yaml.field? members "version" d.text? default.version
  let folder ← Yaml.field? members "dataDir" d.optionalText? none
  let hints ← Yaml.field? members "inlayHints" (HintSettings.ofNode? d) default.hints
  return { version, dataFolder := folder.map Path.mk, hints }

def fileName : String := ".octopus-tools.yaml"

/-- Reads a settings file; a blank one gives the defaults. -/
def ofFile (h : Host) (p : Path) : Except Error Settings :=
  match h.readText p with
  | .error fault => .error (.host fault)
  | .ok text =>
    if Text.isBlankText text then .ok default
    else match (Yaml.Document.read? text).bind ofDocument? with
      | some s => .ok s
      | none => .error .yaml

/-- The settings with a relative data folder seen from the given folder. -/
def inFolder (s : Settings) (folder : Path) : Settings :=
  { s with dataFolder := s.dataFolder.map fun p => folder.join p.text }

def firstOf (h : Host) : List Path → Except Error (Option Settings)
  | [] => .ok none
  | folder :: folders =>
    let file := folder.join fileName
    if h.isFile file then (ofFile h file).map fun s => some (s.inFolder folder)
    else firstOf h folders

/-- The settings that hold in a folder: those of the folder itself or of the nearest one above. -/
def discover (h : Host) (start : Path) : Except Error (Option Settings) :=
  firstOf h start.ancestors

end Settings

end InputDeck
