import InputDeck.Text.WordChar

/-!
# The word under a cursor
-/

namespace InputDeck.Text

structure Word where
  text : String
  start : Nat
  deriving DecidableEq, Repr

def Word.stop (w : Word) : Nat :=
  w.start + w.text.length

/-- The longest word that touches the cursor at `column`, from either side. -/
def wordAt? (line : String) (column : Nat) : Option Word :=
  let cs := line.toList
  if cs.length < column then none
  else
    let before := (cs.take column).reverse.takeWhile isCursorWordChar
    let after := (cs.drop column).takeWhile isCursorWordChar
    match before.reverse ++ after with
    | [] => none
    | word => some ⟨String.ofList word, column - before.length⟩

end InputDeck.Text
