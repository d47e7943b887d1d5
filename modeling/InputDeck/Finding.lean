import InputDeck.Catalog.Basic
import InputDeck.Statement.Assignment
import InputDeck.Text.Line

/-!
# Findings

A scan goes through the lines of an input deck and reports every assignment of a refused value to a
known variable. Unknown variables are not reported.
-/

namespace InputDeck

open InputDeck.Text
open InputDeck.Statement

/-- A refused value and where it stands; lines and columns count from zero. -/
structure Finding where
  line : Nat
  startColumn : Nat
  endColumn : Nat
  message : String
  deriving DecidableEq, Repr

namespace Finding

/-- The finding as one line of text, its position counted from one. -/
def render (f : Finding) : String :=
  toString (f.line + 1) ++ ":" ++ toString (f.startColumn + 1) ++ ": error: " ++ f.message

end Finding

/-- Comments, block lines and blank lines hold no assignment. -/
def isSkippedLine (line : String) : Bool :=
  match trim line.toList with
  | [] => true
  | c :: _ => c == '-' || c == '#' || c == '%'

namespace Catalog

def findingOn? (c : Catalog) (index : Nat) (line : String) : Option Finding :=
  match assignment? line with
  | none => none
  | some a =>
    match c.verdict? a.name a.value with
    | some (.invalid fault) =>
      some ⟨index, a.valueStart, a.valueEnd, (Verdict.invalid fault).fullMessage⟩
    | _ => none

def scanFrom (c : Catalog) : Nat → List String → List Finding
  | _, [] => []
  | index, line :: lines =>
    (if isSkippedLine line then none else c.findingOn? index line).toList ++
      c.scanFrom (index + 1) lines

def scan (c : Catalog) (lines : List String) : List Finding :=
  c.scanFrom 0 lines

def scanText (c : Catalog) (text : String) : List Finding :=
  c.scan (fileLines text)

end Catalog

end InputDeck
