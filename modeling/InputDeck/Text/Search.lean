/-!
# Searching and splitting text

Columns count characters, from zero.
-/

namespace InputDeck.Text

def indexOf? (needle : List Char) : List Char → Option Nat
  | [] => if needle.isEmpty then some 0 else none
  | c :: cs =>
    if needle.isPrefixOf (c :: cs) then some 0 else (indexOf? needle cs).map (· + 1)

def indexFrom? (needle : List Char) (start : Nat) (cs : List Char) : Option Nat :=
  (indexOf? needle (cs.drop start)).map (start + ·)

def holds (needle haystack : String) : Bool :=
  (indexOf? needle.toList haystack.toList).isSome

def consFirst (c : Char) : List (List Char) → List (List Char)
  | [] => [[c]]
  | piece :: pieces => (c :: piece) :: pieces

theorem consFirst_ne_nil (c : Char) (pieces : List (List Char)) : consFirst c pieces ≠ [] := by
  cases pieces <;> simp [consFirst]

def splitAtEach (sep : Char) : List Char → List (List Char)
  | [] => [[]]
  | c :: cs => if c == sep then [] :: splitAtEach sep cs else consFirst c (splitAtEach sep cs)

def afterLead? : List Char → List Char → Option (List Char)
  | [], cs => some cs
  | _ :: _, [] => none
  | l :: ls, c :: cs => if l == c then afterLead? ls cs else none

def beforeTail? (tail cs : List Char) : Option (List Char) :=
  (afterLead? tail.reverse cs.reverse).map List.reverse

def startsWith (lead s : String) : Bool :=
  lead.toList.isPrefixOf s.toList

end InputDeck.Text
