import InputDeck.Editor.Diagnostic

/-!
# Quick fixes

For a diagnostic of this tool the values that the variable takes are offered in place of the one
that stands on the line now.
-/

namespace InputDeck.Editor

open InputDeck.Statement

def optionFixLimit : Nat := 5

structure Edit where
  range : Range
  text : String
  deriving DecidableEq, Repr

structure Fix where
  title : String
  diagnostic : Diagnostic
  edit : Edit

/-- The values that are offered for a variable, each with the title of its fix. -/
def replacements (v : Variable) : List (String × String) :=
  if v.options.isEmpty then
    v.firstDefault?.toList.map fun text => ("Set to default value '" ++ text ++ "'", text)
  else
    (v.optionNames.take optionFixLimit).map fun text => ("Set to '" ++ text ++ "'", text)

/-- The fixes for a diagnostic on a line with the given text. -/
def fixesOn (c : Catalog) (d : Diagnostic) (line : String) : List Fix :=
  match assignment? line with
  | none => []
  | some a =>
    match c.get? a.name with
    | none => []
    | some v =>
      (replacements v).map fun (title, text) =>
        ⟨title, d, .on d.range.start.line line a.valueStart a.valueEnd, text⟩

def fixesFor (c : Catalog) (doc : Document) (d : Diagnostic) : List Fix :=
  if d.source = some diagnosticSource then
    match doc.line? d.range.start.line with
    | none => []
    | some line => fixesOn c d line
  else []

def fixes (c : Catalog) (doc : Document) (ds : List Diagnostic) : List Fix :=
  ds.flatMap (fixesFor c doc)

end InputDeck.Editor
