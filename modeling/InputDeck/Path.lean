import InputDeck.Text.Search

/-!
# Paths

A path is a text whose parts are separated by slashes. Joining and taking parents work on the text
alone and never look at the file system.
-/

namespace InputDeck

open InputDeck.Text

structure Path where
  text : String
  deriving DecidableEq, Repr

namespace Path

def chars (p : Path) : List Char :=
  p.text.toList

def isAbsolute (p : Path) : Bool :=
  p.chars.head? == some '/'

def isEmpty (p : Path) : Bool :=
  p.chars.isEmpty

/-- The second path seen from the first: an absolute one replaces it, and an empty one adds a slash
at its end. -/
def join (base : Path) (rest : String) : Path :=
  if (Path.mk rest).isAbsolute then ⟨rest⟩
  else match base.chars.getLast? with
    | none => ⟨rest⟩
    | some '/' => ⟨base.text ++ rest⟩
    | some _ => ⟨base.text ++ "/" ++ rest⟩

/-- Drops slashes, and dots that stand for the folder they are in, from the end of a path whose
characters come in reverse order. The slash of the root and a leading dot stay. -/
def dropTrailing : List Char → List Char
  | [] => []
  | ['/'] => ['/']
  | '/' :: rest => dropTrailing rest
  | '.' :: '/' :: rest => dropTrailing ('/' :: rest)
  | cs => cs

/-- The path without its last part; the root and the empty path have no parent. -/
def parent? (p : Path) : Option Path :=
  let cs := dropTrailing p.chars.reverse
  if (cs.takeWhile (· != '/')).isEmpty then none
  else some ⟨String.ofList (dropTrailing (cs.dropWhile (· != '/'))).reverse⟩

def lineage : Nat → Path → List Path
  | 0, _ => []
  | count + 1, p =>
    p :: (match p.parent? with
      | none => []
      | some parent => lineage count parent)

/-- The path, its parent, the parent of that one, and so on. Each is shorter than the one before. -/
def ancestors (p : Path) : List Path :=
  lineage (p.chars.length + 1) p

def parts (p : Path) : List String :=
  (splitAtEach '/' p.chars).map String.ofList

/-- The parts that matter: neither empty ones nor dots, except that a dot may come first. -/
def steps (p : Path) : List String :=
  let isStep (part : String) : Bool := part != "" && part != "."
  match p.parts with
  | "." :: rest => "." :: rest.filter isStep
  | parts => parts.filter isStep

def agrees (p q : Path) : Bool :=
  p.isAbsolute == q.isAbsolute && p.steps == q.steps

end Path

end InputDeck
