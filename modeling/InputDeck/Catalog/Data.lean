import InputDeck.Catalog.Basic
import InputDeck.Json.Printer
import InputDeck.Json.Reader

/-!
# Catalog data files

A data file is a JSON object with one member per variable. A variable is an object or an array of
its fields; single texts may stand for lists of one. Unknown members are ignored, but a field may be
given only once, whichever of its names is used.
-/

namespace InputDeck

open InputDeck.Text

namespace Json

/-- The fields of a structure whose names are given in order, each with its alternatives. An object
may give each field once; an array gives the first ones. -/
def fields? (shape : List (List String)) : Json → Option (List (Option Json))
  | object members => shape.mapM fun names =>
    match members.filter fun member => names.contains member.1 with
    | [] => some none
    | [member] => some (some member.2)
    | _ => none
  | array items =>
    if items.length ≤ shape.length then
      some (items.map some ++ List.replicate (shape.length - items.length) none)
    else none
  | _ => none

def scalarText? : Json → Option String
  | string s => some s
  | number n => n.value?.map NumberValue.text
  | bool b => some (if b then "true" else "false")
  | _ => none

/-- One scalar or a list of them, without the blank ones. -/
def texts? : Option Json → Option (List String)
  | none => some []
  | some null => some []
  | some (array items) => (items.mapM scalarText?).map (·.filter (!isBlankText ·))
  | some item => item.scalarText?.map fun s => [s].filter (!isBlankText ·)

/-- A text that may be absent or null; a blank one counts as absent. -/
def optionalText? : Option Json → Option (Option String)
  | none => some none
  | some null => some none
  | some (string s) => some (if isBlankText s then none else some s)
  | _ => none

def plainText? : Option Json → Option String
  | none => some ""
  | some (string s) => some s
  | _ => none

end Json

namespace VariableOption

def fieldNames : List (List String) :=
  [["Name", "name"], ["Value", "value"]]

def ofJson? (v : Json) : Option VariableOption :=
  match v.fields? fieldNames with
  | some [some (.string name), some value] => value.scalarText?.map fun value => ⟨name, value⟩
  | _ => none

def toJson (o : VariableOption) : Json :=
  .object [("Name", .string o.name), ("Value", .string o.value)]

end VariableOption

namespace Variable

def fieldNames : List (List String) :=
  [["Name", "name"], ["Type", "type"], ["Default", "default"], ["Section", "section"],
    ["Description", "description"], ["Options", "options"], ["docUrl", "DocUrl", "doc_url"]]

def options? : Option Json → Option (List VariableOption)
  | none => some []
  | some (.array items) => items.mapM VariableOption.ofJson?
  | _ => none

/-- Reads a variable; it is named by the key of its member unless it gives a name itself. -/
def ofJson? (key : String) (v : Json) : Option Variable := do
  match ← v.fields? fieldNames with
  | [name, kind, defaults, section_, description, options, link] =>
    let name ← Json.optionalText? name
    let kind ← Json.plainText? kind
    let defaults ← Json.texts? defaults
    let sectionName ← Json.plainText? section_
    let description ← Json.texts? description
    let options ← options? options
    let link ← Json.optionalText? link
    return { name := name.getD key, kind := .ofName kind, defaults, sectionName, description,
             options, link }
  | _ => none

def listMember (key : String) (items : List Json) : List (String × Json) :=
  if items.isEmpty then [] else [(key, .array items)]

def toJson (v : Variable) : Json :=
  .object <| [("Name", .string v.name), ("Type", .string v.kind.name)] ++
    listMember "Default" (v.defaults.map .string) ++ [("Section", .string v.sectionName)] ++
    listMember "Description" (v.description.map .string) ++
    listMember "Options" (v.options.map VariableOption.toJson)

end Variable

namespace Catalog

/-- Reads the variables of a data file in the order of their keys; of two members with the same key
the later one stays. -/
def ofJson? (version : String) : Json → Option Catalog
  | .object members =>
    (members.mapM fun (key, v) => (Variable.ofJson? key v).map (key, ·)).map fun read =>
      ofVariables version (Dictionary.ofList read).values
  | _ => none

def read? (version text : String) : Option Catalog :=
  (Json.read? text).bind (ofJson? version)

/-- The text of a data file, with one member per name in the order of names. -/
def dataFile (vs : List Variable) : String :=
  let entries := (Dictionary.ofList (vs.map fun v => (v.name, v))).entries
  (Json.object (entries.map fun (name, v) => (name, v.toJson))).pretty

def dataFileName (version : String) : String :=
  "varinfo-" ++ version ++ ".json"

end Catalog

end InputDeck
