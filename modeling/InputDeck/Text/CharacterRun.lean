import InputDeck.Text.Search

/-!
# Texts for runs of characters

A table that gives a text for each of many characters lists neighbours together.
-/

namespace InputDeck.Text

structure CharacterRun where
  first : Nat
  /-- One text for each character from the first one on, with a space between two of them. -/
  texts : String

def CharacterRun.entries (r : CharacterRun) : List (List Char) :=
  splitAtEach ' ' r.texts.toList

def CharacterRun.text? (r : CharacterRun) (n : Nat) : Option (List Char) :=
  if n < r.first then none else r.entries[n - r.first]?

def textIn? (runs : List CharacterRun) (c : Char) : Option (List Char) :=
  runs.findSome? (·.text? c.toNat)

def characterIn? (runs : List CharacterRun) (text : List Char) : Option Char :=
  runs.findSome? fun r => (r.entries.idxOf? text).map fun i => Char.ofNat (r.first + i)

end InputDeck.Text
