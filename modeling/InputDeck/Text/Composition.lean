import InputDeck.Text.CombiningClass
import InputDeck.Text.Composition.Table

/-!
# Canonical composition

A letter with marks can be written as one character or as a sequence of them. The composed form of a
text takes everything apart, puts the marks of each letter in the order of their classes, and then
joins whatever has a character of its own. Two texts that look alike have the same composed form.
-/

namespace InputDeck.Text

/-! ## Hangul -/

namespace Hangul

/-- Leading consonants, vowels and trailing consonants have blocks of their own, and the syllables
are numbered through. The first trailing consonant of a block is none at all. -/
def firstLead : Nat := 0x1100

def firstVowel : Nat := 0x1161

def firstTrail : Nat := 0x11a7

def firstSyllable : Nat := 0xac00

def leadCount : Nat := 19

def vowelCount : Nat := 21

def trailCount : Nat := 28

def syllableCount : Nat := leadCount * vowelCount * trailCount

def letters? (c : Char) : Option (List Char) :=
  let n := c.toNat - firstSyllable
  if c.toNat < firstSyllable || syllableCount ≤ n then none
  else
    let lead := Char.ofNat (firstLead + n / (vowelCount * trailCount))
    let vowel := Char.ofNat (firstVowel + n % (vowelCount * trailCount) / trailCount)
    let trail := n % trailCount
    some (if trail = 0 then [lead, vowel] else [lead, vowel, Char.ofNat (firstTrail + trail)])

def index? (first count : Nat) (c : Char) : Option Nat :=
  if first ≤ c.toNat && c.toNat < first + count then some (c.toNat - first) else none

/-- A syllable from a consonant and a vowel, or from a syllable without a trailing consonant and
such a consonant. -/
def join? (a b : Char) : Option Char :=
  match index? firstLead leadCount a, index? firstVowel vowelCount b with
  | some lead, some vowel =>
    some (Char.ofNat (firstSyllable + (lead * vowelCount + vowel) * trailCount))
  | _, _ =>
    match index? firstSyllable syllableCount a, index? firstTrail trailCount b with
    | some syllable, some trail =>
      if syllable % trailCount = 0 && trail ≠ 0 then some (Char.ofNat (a.toNat + trail)) else none
    | _, _ => none

end Hangul

/-! ## Taking apart and joining -/

def decomposed (c : Char) : List Char :=
  if c.toNat < 128 then [c]
  else ((Hangul.letters? c).or (textIn? composedRuns c)).getD [c]

def joined? (a b : Char) : Option Char :=
  if b.toNat < 128 then none
  else (Hangul.join? a b).or (characterIn? composedRuns (decomposed a ++ [b]))

/-- Puts a character in front of a text; a mark moves behind those of a lower class. -/
def putInOrder (c : Char) : List Char → List Char
  | [] => [c]
  | d :: rest =>
    if combiningClass d ≠ 0 && combiningClass d < combiningClass c then d :: putInOrder c rest
    else c :: d :: rest

/-- Joins what follows a letter with it. `passed` holds the marks that did not join, the last one
first; a mark does not reach the letter past one of its own class. -/
def joinWith (letter : Char) (passed : List Char) : List Char → List Char
  | [] => letter :: passed.reverse
  | c :: rest =>
    let reaches := passed.head?.all fun d => combiningClass d < combiningClass c
    match if reaches then joined? letter c else none with
    | some whole => joinWith whole passed rest
    | none =>
      if combiningClass c = 0 then letter :: passed.reverse ++ joinWith c [] rest
      else joinWith letter (c :: passed) rest

def joinAll : List Char → List Char
  | [] => []
  | c :: rest => if combiningClass c = 0 then joinWith c [] rest else c :: joinAll rest

def composed (cs : List Char) : List Char :=
  joinAll ((cs.flatMap decomposed).foldr putInOrder [])

end InputDeck.Text
