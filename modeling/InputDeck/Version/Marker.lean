import InputDeck.Text.Blank
import InputDeck.Text.Lowercase
import InputDeck.Text.Numeric
import InputDeck.Text.Recent

/-!
# Version markers

A version is written in the output of the simulation code as `octopus 16.2`, and in a file as a
comment such as `# octopus version: 16.2`. The earliest one counts; letter case does not.
-/

namespace InputDeck.Version

open InputDeck.Text

def isVersionDigit (c : Char) : Bool :=
  isDecimalDigit c && !isRecent c

/-- Digits, a point and digits at the start of the text, as many of the latter as there are. -/
def numberHere? (cs : List Char) : Option (List Char) :=
  let whole := cs.takeWhile isVersionDigit
  match cs.dropWhile isVersionDigit with
  | '.' :: rest =>
    let fraction := rest.takeWhile isVersionDigit
    if whole.isEmpty || fraction.isEmpty then none else some (whole ++ '.' :: fraction)
  | _ => none

def afterBlanks? (cs : List Char) : Option (List Char) :=
  match cs with
  | c :: rest => if isBlank c then some (trimStart rest) else none
  | [] => none

def announcedHere? (cs : List Char) : Option (List Char) :=
  ((afterFolded? "octopus".toList cs).bind afterBlanks?).bind numberHere?

def dropOptionalN : List Char → List Char
  | c :: cs => if foldLetter c == 'n' then cs else c :: cs
  | [] => []

def dropOptionalMark : List Char → List Char
  | c :: cs => if c == ':' || c == '-' then cs else c :: cs
  | [] => []

/-- A comment sign, the program name, the word version and the number, with optional blanks and an
optional colon or hyphen in between. -/
def markedHere? (cs : List Char) : Option (List Char) :=
  match cs with
  | [] => none
  | c :: rest =>
    if c == '#' || c == '%' then
      match (afterFolded? "octopus".toList (trimStart rest)).bind afterBlanks? with
      | none => none
      | some word =>
        (afterFolded? "versio".toList word).bind fun tail =>
          numberHere? (trimStart (dropOptionalMark (trimStart (dropOptionalN tail))))
    else none

def earliest? (here? : List Char → Option (List Char)) : List Char → Option (List Char)
  | [] => here? []
  | c :: cs => (here? (c :: cs)).or (earliest? here? cs)

/-- The version that the simulation code announces in its output. -/
def announced? (output : String) : Option String :=
  (earliest? announcedHere? output.toList).map String.ofList

/-- The version that a comment in a file asks for. -/
def marked? (text : String) : Option String :=
  (earliest? markedHere? text.toList).map String.ofList

end InputDeck.Version
