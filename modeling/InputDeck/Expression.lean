import InputDeck.Text.Blank
import InputDeck.Text.Lowercase
import InputDeck.Text.WordChar

/-!
# Computed values

The simulation code evaluates numeric values, so `3.5 * angstrom`, `sqrt(2)` or `{0.5, -0.5}` may
stand wherever a number is expected. A value is only classified here, never evaluated. The names of
constants and functions are also what highlighting shows.
-/

namespace InputDeck.Expression

open InputDeck.Text

def constants : List String :=
  ["pi", "e", "i", "angstrom", "pm", "picometer", "nm", "nanometer", "ry", "rydberg", "eV",
    "electronvolt", "invcm", "kelvin", "kjoule_mol", "kcal_mol", "as", "attosecond", "fs",
    "femtosecond", "ps", "picosecond", "c", "x", "y", "z", "r", "w", "t"]

def functions : List String :=
  ["sqrt", "exp", "log", "ln", "log10", "logb", "logabs", "arg", "abs", "abs2", "conjg", "inv",
    "sin", "cos", "tan", "cot", "sec", "csc", "asin", "acos", "atan", "acot", "asec", "acsc",
    "atan2", "sinh", "cosh", "tanh", "coth", "sech", "csch", "asinh", "acosh", "atanh", "acoth",
    "asech", "acsch", "min", "max", "step", "erf", "realpart", "imagpart", "floor", "ceiling"]

def isOperator (c : Char) : Bool :=
  c == '+' || c == '-' || c == '*' || c == '/' || c == '^'

/-- Some suffix of the text passes the test, which also sees the character before that suffix. -/
def anySuffix (test : Option Char → List Char → Bool) : Option Char → List Char → Bool
  | before, [] => test before []
  | before, c :: cs => test before (c :: cs) || anySuffix test (some c) cs

def startsWord (before : Option Char) : Bool :=
  !before.any isBoundaryWordChar

/-- A constant stands here as a whole word, letter case aside. -/
def constantHere (before : Option Char) (cs : List Char) : Bool :=
  startsWord before && constants.any fun name =>
    (afterFolded? name.toList cs).any fun rest => !rest.head?.any isBoundaryWordChar

/-- A function name starts a word here and an opening parenthesis follows, possibly after blanks. -/
def callHere (before : Option Char) (cs : List Char) : Bool :=
  startsWord before && functions.any fun name =>
    (afterFolded? name.toList cs).any fun rest => (trimStart rest).head? == some '('

def isPairChar (c : Char) : Bool :=
  c != ',' && c != '}' && !isBlank c

def afterHalf? (cs : List Char) : Option (List Char) :=
  let text := trimStart cs
  if (text.takeWhile isPairChar).isEmpty then none
  else some (trimStart (text.dropWhile isPairChar))

/-- A pair such as `{0.5, -0.5}` stands here. -/
def pairHere (cs : List Char) : Bool :=
  match cs with
  | '{' :: inner =>
    match afterHalf? inner with
    | some (',' :: second) => ((afterHalf? second).bind List.head?) == some '}'
    | _ => false
  | _ => false

/-- The value holds an operator, a constant, a function call or a pair. A leading minus sign is an
operator. -/
def looksComputed (value : String) : Bool :=
  let cs := value.toList
  cs.any isOperator || anySuffix constantHere none cs || anySuffix callHere none cs ||
    anySuffix (fun _ => pairHere) none cs

end InputDeck.Expression
