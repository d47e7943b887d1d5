/-!
# Places in a YAML text

A cursor is what is left of a text together with the place reached: how many characters came
before, and the line and the column. A line ends at LF, CR, CR LF, NEL, LS or PS.
-/

namespace InputDeck.Yaml

def isSpacing (c : Char) : Bool :=
  c == ' ' || c == '\t'

def isBreak (c : Char) : Bool :=
  c == '\n' || c == '\r' || c == '\u0085' || c == '\u2028' || c == '\u2029'

def isNameChar (c : Char) : Bool :=
  c.isAlphanum || c == '_' || c == '-'

/-- A YAML text holds no control characters other than tabs and line ends. -/
def isAllowed (c : Char) : Bool :=
  let n := c.toNat
  c == '\t' || c == '\n' || c == '\r' || (0x20 ≤ n && n ≤ 0x7e) || n == 0x85 ||
    (0xa0 ≤ n && n ≤ 0xd7ff) || (0xe000 ≤ n && n ≤ 0xfffd) || 0x10000 ≤ n

structure Cursor where
  rest : List Char
  index : Nat
  line : Nat
  column : Nat
  deriving Inhabited

namespace Cursor

def ofText (s : String) : Cursor :=
  { rest := s.toList, index := 0, line := 0, column := 0 }

def peek? (c : Cursor) : Option Char :=
  c.rest.head?

def startsWith (c : Cursor) (d : Char) : Bool :=
  c.peek? == some d

def isGapAt (c : Cursor) (ahead : Nat) : Bool :=
  match c.rest[ahead]? with
  | none => true
  | some d => isSpacing d || isBreak d

def advance (c : Cursor) (count : Nat) : Cursor :=
  { c with rest := c.rest.drop count, index := c.index + count, column := c.column + count }

def span (p : Char → Bool) (c : Cursor) : List Char × Cursor :=
  let taken := c.rest.takeWhile p
  (taken, c.advance taken.length)

def skipWhile (p : Char → Bool) (c : Cursor) : Cursor :=
  (c.span p).2

/-- The end of the line as the text it stands for, and the cursor on the next line. -/
def lineBreak? (c : Cursor) : Option (Char × Cursor) :=
  let next (rest : List Char) (count : Nat) : Cursor :=
    { rest, index := c.index + count, line := c.line + 1, column := 0 }
  match c.rest with
  | '\r' :: '\n' :: rest => some ('\n', next rest 2)
  | d :: rest =>
    if d == '\u2028' || d == '\u2029' then some (d, next rest 1)
    else if isBreak d then some ('\n', next rest 1)
    else none
  | [] => none

def skipComment (c : Cursor) : Cursor :=
  if c.startsWith '#' then c.skipWhile (!isBreak ·) else c

/-- The cursor on the next line, if only spaces and a comment are left of this one. -/
def restOfLine? (c : Cursor) : Option Cursor :=
  let c := (c.skipWhile isSpacing).skipComment
  if c.rest.isEmpty then some c else c.lineBreak?.map (·.2)

def isMarker (c : Cursor) (mark : Char) : Bool :=
  c.column == 0 && c.rest.take 3 == [mark, mark, mark] && c.isGapAt 3

def isDocumentMarker (c : Cursor) : Bool :=
  c.isMarker '-' || c.isMarker '.'

end Cursor

end InputDeck.Yaml
