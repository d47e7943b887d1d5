import InputDeck.Catalog.Data
import InputDeck.Text.Line

/-!
# Variable listings

An installation of the simulation code comes with a plain listing of its variables. A record starts
with `Variable Name` and ends at `END`, at the next record or at the end of the text. Its
description runs from the line `Description` to the first option.
-/

namespace InputDeck.Varinfo

open InputDeck.Text

/-- A record that is being read; `describing` while lines belong to its description. -/
structure Draft where
  record : Variable
  describing : Bool

def emptyVariable (name : String) : Variable :=
  { name, kind := .other "", defaults := [], sectionName := "", description := [], options := [],
    link := none }

inductive LineKind where
  | record (name : String)
  | recordEnd
  | option (option? : Option VariableOption)
  /-- Any other line, which counts according to the lines before it. -/
  | other
  deriving DecidableEq, Repr

def afterKeyword? (keyword line : String) : Option String :=
  (afterLead? (keyword.toList ++ [' ']) line.toList).map String.ofList

/-- The name and the value on an option line. -/
def optionOf? (line : String) : Option VariableOption :=
  match words line.toList with
  | _ :: name :: value :: _ => some ⟨String.ofList name, String.ofList value⟩
  | _ => none

def lineKind (line : String) : LineKind :=
  match afterKeyword? "Variable" line with
  | some name => .record (trimmed name)
  | none =>
    if line == "END" then .recordEnd
    else if (afterKeyword? "Option" line).isSome then .option (optionOf? line)
    else .other

namespace Draft

/-- Takes a line of a record into account that is neither its start, its end nor an option. -/
def addLine (d : Draft) (line : String) : Draft :=
  let v := d.record
  if d.describing then
    if line == "" then d
    else { d with record := { v with description := v.description ++ [line] } }
  else if line == "Description" then { d with describing := true }
  else match afterKeyword? "Type" line with
    | some kind => { d with record := { v with kind := .ofName kind } }
    | none =>
      match afterKeyword? "Default" line with
      | some value => { d with record := { v with defaults := [trimmed value] } }
      | none =>
        match afterKeyword? "Section" line with
        | some name => { d with record := { v with sectionName := trimmed name } }
        | none => d

def addOption (d : Draft) (option? : Option VariableOption) : Draft :=
  { record := { d.record with options := d.record.options ++ option?.toList }
    describing := false }

end Draft

structure State where
  finished : List Variable
  current : Option Draft

namespace State

def empty : State := ⟨[], none⟩

def records (s : State) : List Variable :=
  s.finished ++ (s.current.map Draft.record).toList

/-- Takes the next line into account, without the blanks at its ends. -/
def step (s : State) (line : String) : State :=
  match lineKind line with
  | .record name => ⟨s.records, some ⟨emptyVariable name, false⟩⟩
  | .recordEnd => ⟨s.records, none⟩
  | .option option? => { s with current := s.current.map (·.addOption option?) }
  | .other => { s with current := s.current.map (·.addLine line) }

end State

def ofLines (lines : List String) : List Variable :=
  (lines.foldl (fun s line => s.step (trimmed line)) State.empty).records

def read (text : String) : List Variable :=
  ofLines (fileLines text)

end InputDeck.Varinfo
