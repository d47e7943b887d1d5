import InputDeck.Catalog.Basic
import InputDeck.Statement.Assignment

/-!
# Completion

Behind the equals sign of an assignment the values of the variable are offered, and anywhere else
the names of variables.
-/

namespace InputDeck.Editor

open InputDeck.Statement

inductive CompletionKind where
  | variable
  | value
  deriving DecidableEq, Repr

structure Completion where
  label : String
  kind : CompletionKind
  detail : String
  /-- Further text in Markdown. -/
  documentation : String
  /-- The text that is put in if the completion is chosen. -/
  insertion : String
  deriving DecidableEq, Repr

def Completion.value (v : Variable) (text detail about : String) : Completion :=
  ⟨text, .value, detail, about ++ " for **" ++ v.name ++ "**", text⟩

def Completion.name (v : Variable) : Completion :=
  ⟨v.name, .variable, v.sectionName, v.descriptionText, v.name ++ " = " ++ v.firstDefault?.getD ""⟩

def logicalWords : List String := ["true", "false", "yes", "no"]

/-- The values of a variable: its options, its default, and words if it is logical. -/
def valueCompletions (v : Variable) : List Completion :=
  v.options.map (fun o => .value v o.name o.value "Optional value") ++
  v.firstDefault?.toList.map (fun text => .value v text "Default value" "Default value") ++
  if v.kind = .logical then
    logicalWords.map fun word => .value v word "Logical value" "Logical value option"
  else []

/-- What is offered behind the text that stands before the cursor on its line. -/
def completions (c : Catalog) (before : String) : List Completion :=
  match unfinished? before with
  | some (name, _) =>
    match c.get? name with
    | some v => valueCompletions v
    | none => []
  | none => c.toList.map .name

end InputDeck.Editor
