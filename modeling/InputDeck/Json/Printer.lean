import InputDeck.Json.Basic
import InputDeck.Text.Hex

/-!
# Writing JSON

Two layouts: everything on one line, or members and items on lines of their own, indented by two
spaces. Characters beyond ASCII are written as they are.
-/

namespace InputDeck.Json

open InputDeck.Text

def escape (c : Char) : List Char :=
  if c == '"' then ['\\', '"']
  else if c == '\\' then ['\\', '\\']
  else if c == '\x08' then ['\\', 'b']
  else if c == '\t' then ['\\', 't']
  else if c == '\n' then ['\\', 'n']
  else if c == '\x0c' then ['\\', 'f']
  else if c == '\r' then ['\\', 'r']
  else if c.toNat < 0x20 then
    ['\\', 'u', '0', '0', hexDigit (c.toNat / 16), hexDigit (c.toNat % 16)]
  else [c]

def quote (s : String) : List Char :=
  '"' :: (s.toList.flatMap escape ++ ['"'])

/-- A layout says what stands before the first item of a container of the given depth, between two
items, after the last one, and after a colon. -/
structure Layout where
  before : Nat → List Char
  between : Nat → List Char
  after : Nat → List Char
  colon : List Char

namespace Layout

def line : Layout where
  before _ := []
  between _ := [',']
  after _ := []
  colon := [':']

def newline (depth : Nat) : List Char :=
  '\n' :: List.replicate (2 * depth) ' '

def indented : Layout where
  before depth := newline (depth + 1)
  between depth := ',' :: newline (depth + 1)
  after depth := newline depth
  colon := [':', ' ']

def enclose (layout : Layout) (depth : Nat) (opening closing : Char) : List (List Char) → List Char
  | [] => [opening, closing]
  | pieces => opening :: (layout.before depth ++ (layout.between depth).intercalate pieces ++
      layout.after depth ++ [closing])

end Layout

mutual

def renderWith (layout : Layout) : Nat → Json → List Char
  | _, null => "null".toList
  | _, bool true => "true".toList
  | _, bool false => "false".toList
  | _, number n => n.text
  | _, string s => quote s
  | depth, array items => layout.enclose depth '[' ']' (itemTexts layout (depth + 1) items)
  | depth, object members =>
    layout.enclose depth '{' '}' (memberTexts layout (depth + 1) members)
  | _, unpaired => "null".toList

def itemTexts (layout : Layout) : Nat → List Json → List (List Char)
  | _, [] => []
  | depth, item :: items => renderWith layout depth item :: itemTexts layout depth items

def memberTexts (layout : Layout) : Nat → List (String × Json) → List (List Char)
  | _, [] => []
  | depth, (key, value) :: members =>
    (quote key ++ layout.colon ++ renderWith layout depth value) :: memberTexts layout depth members

end

def compact (v : Json) : String :=
  String.ofList (renderWith .line 0 v)

def pretty (v : Json) : String :=
  String.ofList (renderWith .indented 0 v)

end InputDeck.Json
