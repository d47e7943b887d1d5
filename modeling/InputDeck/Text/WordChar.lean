import InputDeck.Text.Alphabetic
import InputDeck.Text.Joining
import InputDeck.Text.Numeric
import InputDeck.Text.Recent

/-!
# Word characters

Two notions of a word meet here. The word under a cursor is made of letters, numerals and low lines;
a word boundary inside an expression also counts combining marks and connectors as part of the word.
-/

namespace InputDeck.Text

def isAlphanumeric (c : Char) : Bool :=
  isAlphabetic c || isNumeral c

/-- The characters that make up the word under a cursor. -/
def isCursorWordChar (c : Char) : Bool :=
  isAlphanumeric c || c == '_'

/-- The characters that no word boundary separates. -/
def isBoundaryWordChar (c : Char) : Bool :=
  (isAlphabetic c || isJoining c || isDecimalDigit c) && !isRecent c

end InputDeck.Text
