import InputDeck.Statement.Name

/-!
# Assignments

An assignment is one line `Name = value`. The value ends at the first `#`, even inside quotes, and
loses the blanks around it. Columns are found by searching the line for the name and for the value,
the value from the end of the name on.
-/

namespace InputDeck.Statement

open InputDeck.Text

structure Assignment where
  name : String
  value : String
  nameStart : Nat
  valueStart : Nat
  deriving DecidableEq, Repr

namespace Assignment

def nameEnd (a : Assignment) : Nat :=
  a.nameStart + a.name.length

def valueEnd (a : Assignment) : Nat :=
  a.valueStart + a.value.length

end Assignment

/-- The name left of the first equals sign, if nothing but blanks surrounds it, and the text right
of that sign. -/
def splitAssignment? (cs : List Char) : Option (List Char × List Char) :=
  match takeName? (trimStart cs) with
  | none => none
  | some (name, rest) =>
    match trimStart rest with
    | '=' :: tail => some (name, tail)
    | _ => none

/-- The text right of an equals sign without the blanks in front of it. There has to be a character
other than a line feed, and no line feed may follow it. If blanks are all there is, the last of them
has to be that character. -/
def assignedText? (tail : List Char) : Option (List Char) :=
  match trimStart tail with
  | [] => if tail.getLast?.any (· != '\n') then some [] else none
  | text => if text.contains '\n' then none else some text

def uncommented (cs : List Char) : List Char :=
  cs.takeWhile (· != '#')

def assigned? (cs : List Char) : Option (List Char × List Char) :=
  match splitAssignment? cs with
  | none => none
  | some (name, tail) => (assignedText? tail).map fun text => (name, trim (uncommented text))

def locate (line name value : List Char) : Assignment :=
  let nameStart := (indexOf? name line).getD 0
  let nameEnd := nameStart + name.length
  { name := String.ofList name
    value := String.ofList value
    nameStart
    valueStart := (indexFrom? value nameEnd line).getD nameEnd }

def assignment? (line : String) : Option Assignment :=
  (assigned? line.toList).map fun (name, value) => locate line.toList name value

/-- Reads the text left of a cursor as an assignment whose value is still being typed: the name, and
what has been typed after the equals sign and the blanks that follow it. -/
def unfinished? (text : String) : Option (String × String) :=
  match splitAssignment? text.toList with
  | none => none
  | some (name, tail) =>
    let typed := trimStart tail
    if typed.contains '\n' then none else some (String.ofList name, String.ofList typed)

end InputDeck.Statement
