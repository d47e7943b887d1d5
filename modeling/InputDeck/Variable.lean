import InputDeck.Text.Blank
import InputDeck.Text.Lowercase

/-!
# Variables of an input deck

What a release of the simulation code documents about one variable: its kind, default, section,
description and the options it takes.
-/

namespace InputDeck

open InputDeck.Text

/-- The declared kind of a variable. A kind that is not known by name is kept as it is written. -/
inductive VariableKind where
  | integer
  | float
  | logical
  | string
  | block
  | flag
  | other (name : String)
  deriving DecidableEq, Repr

namespace VariableKind

def ofName (name : String) : VariableKind :=
  match lowercased (trimmed name) with
  | "integer" => integer
  | "float" => float
  | "real" => float
  | "logical" => logical
  | "string" => string
  | "block" => block
  | "flag" => flag
  | _ => other (trimmed name)

def name : VariableKind → String
  | integer => "integer"
  | float => "float"
  | logical => "logical"
  | string => "string"
  | block => "block"
  | flag => "flag"
  | other name => name

end VariableKind

structure VariableOption where
  name : String
  value : String
  deriving DecidableEq, Repr

structure Variable where
  name : String
  kind : VariableKind
  defaults : List String
  /-- The path of the section, its levels separated by two colons. -/
  sectionName : String
  description : List String
  options : List VariableOption
  /-- A link that comes with the data, as against one made from section and name. -/
  link : Option String
  deriving DecidableEq, Repr

namespace Variable

def key (v : Variable) : String :=
  lowercased v.name

def firstDefault? (v : Variable) : Option String :=
  v.defaults.head?

def descriptionText (v : Variable) : String :=
  " ".intercalate v.description

def optionNames (v : Variable) : List String :=
  v.options.map VariableOption.name

end Variable

end InputDeck
