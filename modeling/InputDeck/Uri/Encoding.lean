import InputDeck.Text.Hex
import InputDeck.Text.Utf8

/-!
# Percent encoding

A character that may not stand in a part of a URI is written as its bytes, each with a percent sign
and two hexadecimal digits. Every part has its own set of such characters.
-/

namespace InputDeck.Uri

open InputDeck.Text

def upperHexDigit (n : Nat) : Char :=
  (hexDigit n).toUpper

def encodeByte (b : UInt8) : List Char :=
  ['%', upperHexDigit (b.toNat / 16), upperHexDigit (b.toNat % 16)]

/-- Control characters and those beyond ASCII are encoded everywhere. -/
def isControl (c : Char) : Bool :=
  c.toNat < 0x20 || 0x7e < c.toNat

def encode (marks : List Char) (cs : List Char) : String :=
  String.ofList (cs.flatMap fun c =>
    if isControl c || marks.contains c then (Utf8.encode [c]).flatMap encodeByte else [c])

def anchorMarks : List Char :=
  [' ', '"', '<', '>', '\x60']

def pathMarks : List Char :=
  anchorMarks ++ ['#', '?', '\x7b', '\x7d']

def userMarks : List Char :=
  pathMarks ++ ['/', ':', ';', '=', '@', '[', '\\', ']', '^', '|']

def queryMarks : List Char :=
  [' ', '"', '#', '<', '>']

def decodedBytes : List Char → List UInt8
  | '%' :: a :: b :: cs =>
    match hexValue? a, hexValue? b with
    | some high, some low => UInt8.ofNat (high * 16 + low) :: decodedBytes cs
    | _, _ => Utf8.encode ['%'] ++ decodedBytes (a :: b :: cs)
  | c :: cs => Utf8.encode [c] ++ decodedBytes cs
  | [] => []

end InputDeck.Uri
