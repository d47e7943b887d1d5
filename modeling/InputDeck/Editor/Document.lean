import InputDeck.Text.Line

/-!
# Open documents
-/

namespace InputDeck.Editor

open InputDeck.Text

/-- The text of an open document and the number that its editor gave to this state of it. -/
structure Document where
  text : String
  version : Int
  deriving DecidableEq, Repr

namespace Document

/-- The lines without what ends them. There is always at least one. -/
def lines (d : Document) : List String :=
  (documentLines d.text.toList).map String.ofList

def lineCount (d : Document) : Nat :=
  d.lines.length

def line? (d : Document) (index : Nat) : Option String :=
  d.lines[index]?

def update (_ : Document) (text : String) (version : Int) : Document :=
  ⟨text, version⟩

end Document

end InputDeck.Editor
