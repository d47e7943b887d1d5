import InputDeck.Text.Blank

/-!
# Variable names

A name is an ASCII letter followed by ASCII letters, digits and low lines.
-/

namespace InputDeck.Statement

open InputDeck.Text

def isNameChar (c : Char) : Bool :=
  c.isAlphanum || c == '_'

def takeName? : List Char → Option (List Char × List Char)
  | [] => none
  | c :: cs =>
    if c.isAlpha then some (c :: cs.takeWhile isNameChar, cs.dropWhile isNameChar) else none

def isName (cs : List Char) : Bool :=
  match cs with
  | [] => false
  | c :: rest => c.isAlpha && rest.all isNameChar

end InputDeck.Statement
