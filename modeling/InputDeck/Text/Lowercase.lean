import InputDeck.Text.Casing

/-!
# Lower case

Full lower-casing of a text. Every character is mapped on its own except the capital sigma, which
takes its final form at the end of a word. Patterns over ASCII letters need less: `foldLetter`
brings every character that folds to an ASCII letter to that letter.
-/

namespace InputDeck.Text

/-- The text begins, after characters that are passed over, with a cased letter. -/
def leadsCased (cs : List Char) : Bool :=
  ((cs.dropWhile isCaseIgnorable).head?.map isCased).getD false

/-- Lower case of a text that follows another one; `afterCased` tells whether a cased letter comes
last there, apart from characters that are passed over. -/
def lowercaseAfter (afterCased : Bool) : List Char → List Char
  | [] => []
  | c :: cs =>
    (if c == 'Σ' then [if afterCased && !leadsCased cs then 'ς' else 'σ'] else lowercaseChar c) ++
      lowercaseAfter (if isCaseIgnorable c then afterCased else isCased c) cs

def lowercase (cs : List Char) : List Char :=
  lowercaseAfter false cs

def lowercased (s : String) : String :=
  String.ofList (lowercase s.toList)

/-- Simple case folding as far as it reaches ASCII letters: capitals, the long s and the Kelvin
sign. -/
def foldLetter (c : Char) : Char :=
  if c == 'ſ' then 's' else if c == 'K' then 'k' else c.toLower

def afterFolded? : List Char → List Char → Option (List Char)
  | [], cs => some cs
  | _ :: _, [] => none
  | w :: ws, c :: cs => if foldLetter w == foldLetter c then afterFolded? ws cs else none

end InputDeck.Text
