import InputDeck.Statement.Name

/-!
# Block openings

A block opens with a line that holds `%Name` and nothing else but blanks.
-/

namespace InputDeck.Statement

open InputDeck.Text

/-- The opening of a block; `start` is the column of its percent sign. -/
structure BlockOpening where
  name : String
  start : Nat
  deriving DecidableEq, Repr

def BlockOpening.stop (b : BlockOpening) : Nat :=
  b.start + 1 + b.name.length

def blockOpening? (line : String) : Option BlockOpening :=
  match trimStart line.toList with
  | '%' :: cs =>
    match takeName? cs with
    | some (name, rest) =>
      if rest.all isBlank then
        some ⟨String.ofList name, (indexOf? ['%'] line.toList).getD 0⟩
      else none
    | none => none
  | _ => none

end InputDeck.Statement
