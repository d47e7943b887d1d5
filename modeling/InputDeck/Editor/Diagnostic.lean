import InputDeck.Editor.Document
import InputDeck.Editor.Position
import InputDeck.Finding
import InputDeck.Json.Basic

/-!
# Diagnostics

The findings of a scan, put in terms of the editor. An editor may also send diagnostics of its own
or of other tools, so there is more to them than a finding needs.
-/

namespace InputDeck.Editor

def diagnosticSource : String := "octopus"

inductive Code where
  | number (value : Int)
  | text (value : String)
  deriving DecidableEq, Repr

structure Related where
  uri : String
  range : Range
  message : String
  deriving DecidableEq, Repr

structure Diagnostic where
  range : Range
  severity : Option Int
  code : Option Code
  codeLink : Option String
  source : Option String
  message : String
  related : Option (List Related)
  tags : Option (List Int)
  data : Option Json

def errorSeverity : Int := 1

def Diagnostic.ofFinding (f : Finding) (line : String) : Diagnostic where
  range := .on f.line line f.startColumn f.endColumn
  severity := some errorSeverity
  code := none
  codeLink := none
  source := some diagnosticSource
  message := f.message
  related := none
  tags := none
  data := none

def Document.diagnostics (d : Document) (c : Catalog) : List Diagnostic :=
  (c.scan d.lines).map fun f => .ofFinding f ((d.line? f.line).getD "")

end InputDeck.Editor
