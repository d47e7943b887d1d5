import InputDeck.Shell.Octets

/-!
# Scripts

A script is a list of commands. The words of a command are made of pieces, some of which stand for
what is only known when the command runs: the values of parameters, what other commands print, and
the values of arithmetic expressions.
-/

namespace InputDeck.Shell

inductive Opening where
  | read
  | write
  | append
  deriving DecidableEq, Repr

inductive Instead where
  | fallback
  /-- The fallback becomes the value. -/
  | assignment
  /-- The script ends with the word as its complaint. -/
  | complaint
  /-- The word takes the place of a value, not of a missing one. -/
  | alternative
  deriving DecidableEq, Repr

mutual

inductive Piece where
  | plain (text : Octets)
  | quoted (text : Octets)
  | double (pieces : List Piece)
  | parameter (name : Octets) (use : Use)
  | output (commands : List Command)
  | arithmetic (pieces : List Piece)

inductive Use where
  | value
  | length
  | instead (how : Instead) (orEmpty : Bool) (word : List Piece)
  /-- The value without the shortest or longest part at one end that matches the pattern. -/
  | trim (atEnd longest : Bool) (pattern : List Piece)

inductive Redirection where
  | file (descriptor : Nat) (opening : Opening) (target : List Piece)
  | duplicate (descriptor : Nat) (source : List Piece)
  /-- The descriptor reads the text with this number. -/
  | document (descriptor : Nat) (number : Nat)

inductive Command where
  | simple (assignments : List (Octets × List Piece)) (words : List (List Piece))
      (redirections : List Redirection)
  | pipeline (parts : List Command)
  | negation (command : Command)
  | both (first second : Command)
  | either (first second : Command)
  | background (command : Command)
  | group (body : List Command)
  | subshell (body : List Command)
  | branch (condition body otherwise : List Command)
  | loop (isUntil : Bool) (condition body : List Command)
  | each (name : Octets) (words : Option (List (List Piece))) (body : List Command)
  | choose (word : List Piece) (arms : List (List (List Piece) × List Command))
  | function (name : Octets) (body : Command)
  | redirected (command : Command) (redirections : List Redirection)

end

instance : Inhabited Command :=
  ⟨.group []⟩

abbrev Word := List Piece

def Word.bare? : Word → Option Octets
  | [.plain text] => some text
  | _ => none

def Word.assignment? : Word → Option (Octets × Word)
  | .plain text :: rest =>
    let name := text.takeWhile isNameChar
    match text.drop name.length with
    | '=' :: value =>
      if isName name then some (name, if value.isEmpty then rest else .plain value :: rest)
      else none
    | _ => none
  | _ => none

end InputDeck.Shell
