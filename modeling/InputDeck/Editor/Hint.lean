import InputDeck.Catalog.Basic
import InputDeck.Editor.Document
import InputDeck.Editor.Position
import InputDeck.Settings.Basic
import InputDeck.Statement.Assignment
import InputDeck.Statement.Block

/-!
# Hints behind names

Behind the name that an assignment or a block defines, a hint says whether it is a variable of the
release or the user's own.
-/

namespace InputDeck.Editor

open InputDeck.Text
open InputDeck.Statement

inductive DefinitionKind where
  | variable
  | block
  deriving DecidableEq, Repr

structure Hint where
  position : Position
  name : String
  kind : DefinitionKind
  /-- The release that knows the name, or nothing for a name of the user. -/
  release : Option String
  deriving DecidableEq, Repr

namespace Hint

def isBuiltin (h : Hint) : Bool :=
  h.release.isSome

def label (h : Hint) : String :=
  match h.release, h.kind with
  | some _, .variable => " [builtin]"
  | some _, .block => " [builtin block]"
  | none, .variable => " [user]"
  | none, .block => " [user block]"

def tooltip (h : Hint) : String :=
  let kind := match h.kind with
    | .variable => "variable"
    | .block => "block"
  let origin := match h.release with
    | some version => "Built-in Octopus " ++ version
    | none => "User-defined"
  origin ++ " " ++ kind ++ ": " ++ h.name

end Hint

def knownSince (c : Catalog) (name : String) : Option String :=
  (c.get? name).map fun _ => c.version

def hintOn? (c : Catalog) (index : Nat) (line : String) : Option Hint :=
  match assignment? line with
  | some a => some ⟨.on index line a.nameEnd, a.name, .variable, knownSince c a.name⟩
  | none =>
    (blockOpening? line).map fun b =>
      ⟨.on index line b.stop, b.name, .block, knownSince c b.name⟩

def shows (settings : HintSettings) (h : Hint) : Bool :=
  if h.isBuiltin then settings.showBuiltin else settings.showUser

/-- Blank lines and comments are passed over. -/
def hasNoHint (line : String) : Bool :=
  match trim line.toList with
  | [] => true
  | c :: _ => c == '#'

/-- The hints to show on lines of which the first has the given number. -/
def hintsFrom (c : Catalog) (settings : HintSettings) : Nat → List String → List Hint
  | _, [] => []
  | index, line :: lines =>
    ((if hasNoHint line then none else hintOn? c index line).filter (shows settings)).toList ++
      hintsFrom c settings (index + 1) lines

def hints (c : Catalog) (settings : HintSettings) (doc : Document) (first last : Nat) :
    List Hint :=
  if settings.enabled then
    hintsFrom c settings first ((doc.lines.take (last + 1)).drop first)
  else []

end InputDeck.Editor
