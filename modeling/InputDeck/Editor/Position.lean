import InputDeck.Text.Units

/-!
# Positions in an open document

An editor addresses a place by its line and its column, both from zero, the column in UTF-16 units.
-/

namespace InputDeck.Editor

open InputDeck.Text

structure Position where
  line : Nat
  column : Nat
  deriving DecidableEq, Repr

/-- The position of a character column on a line with the given number and text. -/
def Position.on (index : Nat) (line : String) (column : Nat) : Position :=
  ⟨index, unitColumn line.toList column⟩

structure Range where
  start : Position
  stop : Position
  deriving DecidableEq, Repr

/-- What lies between two character columns of one line. -/
def Range.on (index : Nat) (line : String) (start stop : Nat) : Range :=
  ⟨.on index line start, .on index line stop⟩

end InputDeck.Editor
