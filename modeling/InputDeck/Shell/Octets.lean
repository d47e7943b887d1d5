import InputDeck.Text.Search
import InputDeck.Text.Utf8

/-!
# Texts of octets

Scripts and what they print are rows of octets. An octet is held as the character with its code, so
that the texts of scripts can be written and matched as characters.
-/

namespace InputDeck.Shell

open InputDeck.Text

abbrev Octets := List Char

namespace Octets

def ofBytes (bytes : List UInt8) : Octets :=
  bytes.map fun b => Char.ofNat b.toNat

def toBytes (o : Octets) : List UInt8 :=
  o.map fun c => UInt8.ofNat c.toNat

def ofString (s : String) : Octets :=
  ofBytes (Utf8.encode s.toList)

def toText (o : Octets) : String :=
  Utf8.decodeLossy (toBytes o)

def ofInt (n : Int) : Octets :=
  if n < 0 then '-' :: Nat.toDigits 10 n.natAbs else Nat.toDigits 10 n.natAbs

def numberIn (base : Nat) (digits : Octets) : Nat :=
  digits.foldl (fun n c => base * n + (c.toNat - '0'.toNat)) 0

def toNat? (o : Octets) : Option Nat :=
  if o.isEmpty || !o.all Char.isDigit then none else some (numberIn 10 o)

def lines (o : Octets) : List Octets :=
  let parts := splitAtEach '\n' o
  if parts.getLast? == some [] then parts.dropLast else parts

def unlines (ls : List Octets) : Octets :=
  ls.flatMap (· ++ ['\n'])

end Octets

def isNameStart (c : Char) : Bool :=
  c.isAlpha || c == '_'

def isNameChar (c : Char) : Bool :=
  c.isAlphanum || c == '_'

def isName : Octets → Bool
  | [] => false
  | c :: rest => isNameStart c && rest.all isNameChar

def isSpaceChar (c : Char) : Bool :=
  c == ' ' || ('\t' ≤ c && c ≤ '\r')

end InputDeck.Shell
