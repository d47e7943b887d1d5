import InputDeck.Error
import InputDeck.Text.Search

/-!
# Reports

A command prints lines of text, parts of which may be emphasised or coloured, and then succeeds or
fails. What is printed before a failure stays printed.
-/

namespace InputDeck.Command

inductive Emphasis where
  | bold
  | dimmed
  | underlined
  deriving DecidableEq, Repr

inductive Colour where
  | red
  | green
  | yellow
  | cyan
  | brightBlue
  deriving DecidableEq, Repr

def Emphasis.code : Emphasis → String
  | bold => "1"
  | dimmed => "2"
  | underlined => "4"

def Colour.code : Colour → String
  | red => "31"
  | green => "32"
  | yellow => "33"
  | cyan => "36"
  | brightBlue => "94"

structure Piece where
  emphasis : Option Emphasis
  colour : Option Colour
  text : String
  deriving DecidableEq, Repr

abbrev Line := List Piece

def plain (text : String) : Piece :=
  ⟨none, none, text⟩

def coloured (colour : Colour) (text : String) : Piece :=
  ⟨none, some colour, text⟩

def bold (colour : Colour) (text : String) : Piece :=
  ⟨some .bold, some colour, text⟩

def emphasised (emphasis : Emphasis) (text : String) : Piece :=
  ⟨some emphasis, none, text⟩

def reset : String := "\x1b[0m"

/-- A piece as a terminal takes it: a style goes around its text, and starts again where the text
itself ends all styles. -/
def Piece.render (p : Piece) (colours : Bool) : String :=
  match (p.emphasis.map Emphasis.code).toList ++ (p.colour.map Colour.code).toList with
  | [] => p.text
  | codes =>
    if colours then
      let style := "\x1b[" ++ ";".intercalate codes ++ "m"
      style ++ p.text.replace reset (reset ++ style) ++ reset
    else p.text

def renderLine (colours : Bool) (line : Line) : String :=
  String.join (line.map (Piece.render · colours)) ++ "\n"

def renderLines (colours : Bool) (lines : List Line) : String :=
  String.join (lines.map (renderLine colours))

structure Report (α : Type) where
  lines : List Line
  result : Except Error α

namespace Report

variable {α β : Type}

def after (r : Report α) (lines : List Line) : Report α :=
  ⟨lines ++ r.lines, r.result⟩

def andThen (r : Report α) (next : α → Report β) : Report β :=
  match r.result with
  | .error e => ⟨r.lines, .error e⟩
  | .ok a => (next a).after r.lines

def ofResult (result : Except Error α) : Report α :=
  ⟨[], result⟩

end Report

end InputDeck.Command
