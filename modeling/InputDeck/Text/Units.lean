/-!
# UTF-16 columns

Editors count columns in UTF-16 code units, where a character beyond the Basic Multilingual Plane
takes two.
-/

namespace InputDeck.Text

def unitWidth (c : Char) : Nat :=
  if c.toNat < 0x10000 then 1 else 2

def unitLength : List Char → Nat
  | [] => 0
  | c :: cs => unitWidth c + unitLength cs

/-- The UTF-16 column of a character column; a column past the end counts as the end. -/
def unitColumn (cs : List Char) (column : Nat) : Nat :=
  unitLength (cs.take column)

/-- The character column of a UTF-16 column. A column between the two units of a character belongs
to the column after it, and one past the end to the end. -/
def charColumn : List Char → Nat → Nat
  | [], _ => 0
  | _ :: _, 0 => 0
  | c :: cs, units + 1 => charColumn cs (units + 1 - unitWidth c) + 1

end InputDeck.Text
