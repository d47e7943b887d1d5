import InputDeck.Text.Hex
import InputDeck.Yaml.Cursor

/-!
# Scalars

A scalar is written plain, in single or double quotes, or as a block of indented lines. Outside
blocks the end of a line folds to a space, and the empty lines after it to that many line feeds.
-/

namespace InputDeck.Yaml

open InputDeck.Text

inductive Style where
  | plain
  | quoted
  | literal
  | folded
  deriving DecidableEq, Repr

structure Gap where
  spaces : List Char
  isBroken : Bool
  firstBreak : Option Char
  moreBreaks : List Char

namespace Gap

def empty : Gap :=
  { spaces := [], isBroken := false, firstBreak := none, moreBreaks := [] }

def escapedBreak : Gap :=
  { empty with isBroken := true }

def text (g : Gap) : List Char :=
  if !g.isBroken then g.spaces
  else match g.firstBreak with
    | some '\n' => if g.moreBreaks.isEmpty then [' '] else g.moreBreaks
    | some c => c :: g.moreBreaks
    | none => g.moreBreaks

def addSpace (g : Gap) (c : Char) : Gap :=
  if g.isBroken then g else { g with spaces := g.spaces ++ [c] }

def addBreak (g : Gap) (c : Char) : Gap :=
  if g.isBroken then { g with moreBreaks := g.moreBreaks ++ [c] }
  else { g with isBroken := true, firstBreak := some c }

/-- The gap at the cursor. On a later line no tab may stand left of the given column. Each round
takes a character, so `fuel` need not exceed what is left. -/
def read? (column : Nat) : Nat → Cursor → Gap → Option (Gap × Cursor)
  | 0, c, g => some (g, c)
  | fuel + 1, c, g =>
    match c.lineBreak? with
    | some (d, next) => read? column fuel next (g.addBreak d)
    | none =>
      match c.peek? with
      | some d =>
        if !isSpacing d then some (g, c)
        else if g.isBroken && c.column < column && d == '\t' then none
        else read? column fuel (c.advance 1) (g.addSpace d)
      | none => some (g, c)

end Gap

def isFlowMark (c : Char) : Bool :=
  c == ',' || c == '[' || c == ']' || c == '\x7b' || c == '\x7d'

/-- A plain scalar ends here: at a space, at a colon before one, and in a flow collection at its
marks. -/
def endsPlain (inFlow : Bool) : List Char → Bool
  | [] => true
  | c :: rest =>
    isSpacing c || isBreak c || (inFlow && isFlowMark c) ||
      (c == ':' && rest.head?.all fun d => isSpacing d || isBreak d)

/-- In a flow collection a colon inside a word may not stand before a mark. -/
def isMisplacedColon (inFlow : Bool) : List Char → Bool
  | ':' :: c :: _ => inFlow && (isFlowMark c || c == '?')
  | _ => false

/-- The characters of a plain scalar up to a space or to its end. -/
def plainWord? (inFlow : Bool) : List Char → Option (List Char)
  | [] => some []
  | c :: rest =>
    if isMisplacedColon inFlow (c :: rest) then none
    else if endsPlain inFlow (c :: rest) then some []
    else (plainWord? inFlow rest).map (c :: ·)

structure Scanned where
  text : List Char
  cursor : Cursor
  /-- A line ended after the last character. -/
  isBroken : Bool

/-- The words of a plain scalar, each with the gap before it. A line that is indented less than the
given column does not belong to it. -/
def plainWords? (inFlow : Bool) (column : Nat) :
    Nat → Cursor → List Char → Gap → Option Scanned
  | 0, _, _, _ => none
  | fuel + 1, c, text, gap =>
    if c.isDocumentMarker || c.startsWith '#' then some ⟨text, c, gap.isBroken⟩
    else
      match plainWord? inFlow c.rest with
      | none => none
      | some [] => some ⟨text, c, gap.isBroken⟩
      | some word =>
        let text := text ++ gap.text ++ word
        let c := c.advance word.length
        if !c.isGapAt 0 || c.rest.isEmpty then some ⟨text, c, false⟩
        else
          match Gap.read? column c.rest.length c .empty with
          | none => none
          | some (gap, c) =>
            if !inFlow && c.column < column then some ⟨text, c, gap.isBroken⟩
            else plainWords? inFlow column fuel c text gap

def plainScalar? (inFlow : Bool) (column : Nat) (c : Cursor) : Option Scanned :=
  plainWords? inFlow column (c.rest.length + 1) c [] .empty

def escape? : Char → Option Char
  | '0' => some '\x00'
  | 'a' => some '\x07'
  | 'b' => some '\x08'
  | 't' => some '\t'
  | '\t' => some '\t'
  | 'n' => some '\n'
  | 'v' => some '\x0b'
  | 'f' => some '\x0c'
  | 'r' => some '\r'
  | 'e' => some '\x1b'
  | ' ' => some ' '
  | '"' => some '"'
  | '/' => some '/'
  | '\\' => some '\\'
  | 'N' => some '\u0085'
  | '_' => some '\u00a0'
  | 'L' => some '\u2028'
  | 'P' => some '\u2029'
  | _ => none

def codeLength? : Char → Option Nat
  | 'x' => some 2
  | 'u' => some 4
  | 'U' => some 8
  | _ => none

def hexNumber? (digits : List Char) : Option Nat :=
  digits.foldlM (fun n c => (hexValue? c).map (16 * n + ·)) 0

def codeChar? (count : Nat) (cs : List Char) : Option Char :=
  let digits := cs.take count
  if digits.length < count then none
  else (hexNumber? digits).bind fun n => if n.isValidChar then some (Char.ofNat n) else none

inductive QuotedStop where
  | close
  | gap
  | escapedBreak
  deriving DecidableEq, Repr

def doubleWord? : Nat → Cursor → List Char → Option (List Char × QuotedStop × Cursor)
  | 0, _, _ => none
  | fuel + 1, c, text =>
    match c.rest with
    | [] => some (text, .gap, c)
    | '"' :: _ => some (text, .close, c)
    | '\\' :: d :: rest =>
      match (c.advance 1).lineBreak? with
      | some (_, next) => some (text, .escapedBreak, next)
      | none =>
        match escape? d, codeLength? d with
        | some e, _ => doubleWord? fuel (c.advance 2) (text ++ [e])
        | none, some count =>
          match codeChar? count rest with
          | some e => doubleWord? fuel (c.advance (2 + count)) (text ++ [e])
          | none => none
        | none, none => none
    | ['\\'] => none
    | d :: _ =>
      if isSpacing d || isBreak d then some (text, .gap, c)
      else doubleWord? fuel (c.advance 1) (text ++ [d])

/-- The characters of a scalar in single quotes up to the first stop; a quote in it is written
twice. -/
def singleWord? : Nat → Cursor → List Char → Option (List Char × QuotedStop × Cursor)
  | 0, _, _ => none
  | fuel + 1, c, text =>
    match c.rest with
    | [] => some (text, .gap, c)
    | '\x27' :: '\x27' :: _ => singleWord? fuel (c.advance 2) (text ++ ['\x27'])
    | '\x27' :: _ => some (text, .close, c)
    | d :: _ =>
      if isSpacing d || isBreak d then some (text, .gap, c)
      else singleWord? fuel (c.advance 1) (text ++ [d])

/-- The rest of a quoted scalar. It may not run over a document marker or to the end of the text. -/
def quotedWords? (isDouble : Bool) : Nat → Cursor → List Char → Option Scanned
  | 0, _, _ => none
  | fuel + 1, c, text =>
    if c.isDocumentMarker || c.rest.isEmpty then none
    else
      let word? := if isDouble then doubleWord? else singleWord?
      match word? (c.rest.length + 1) c text with
      | none => none
      | some (text, .close, c) => some ⟨text, c.advance 1, false⟩
      | some (text, stop, c) =>
        let gap := if stop = .escapedBreak then Gap.escapedBreak else .empty
        match Gap.read? 0 c.rest.length c gap with
        | none => none
        | some (gap, c) => quotedWords? isDouble fuel c (text ++ gap.text)

def quotedScalar? (isDouble : Bool) (c : Cursor) : Option Scanned :=
  quotedWords? isDouble (c.rest.length + 1) (c.advance 1) []

inductive Chomping where
  | strip
  | clip
  | keep
  deriving DecidableEq, Repr

def Chomping.ofChar? : Char → Option Chomping
  | '+' => some .keep
  | '-' => some .strip
  | _ => none

structure BlockHeader where
  chomping : Chomping
  increment : Option Nat

def increment? (c : Char) : Option Nat :=
  if c.isDigit && c != '0' then some (c.toNat - '0'.toNat) else none

/-- The header after the mark of a block: how its end is chomped and how far it is indented, in
either order, and nothing else on the line. -/
def blockHeader? (c : Cursor) : Option (BlockHeader × Cursor) :=
  let chomping? (c : Cursor) := c.peek?.bind Chomping.ofChar?
  let digit? (c : Cursor) := c.peek?.bind increment?
  let (header, c) : BlockHeader × Cursor :=
    match chomping? c, digit? c with
    | some chomping, _ =>
      match digit? (c.advance 1) with
      | some n => (⟨chomping, some n⟩, c.advance 2)
      | none => (⟨chomping, none⟩, c.advance 1)
    | none, some n =>
      match chomping? (c.advance 1) with
      | some chomping => (⟨chomping, some n⟩, c.advance 2)
      | none => (⟨.clip, some n⟩, c.advance 1)
    | none, none => (⟨.clip, none⟩, c)
  c.restOfLine?.map (header, ·)

/-- The empty lines at the cursor and the indentation of the line after them. Without an indent the
deepest of these lines gives it; a tab may not take part in it. -/
def blockBreaks? (indent : Option Nat) :
    Nat → Cursor → List Char → Nat → Option (List Char × Nat × Cursor)
  | 0, _, _, _ => none
  | fuel + 1, c, breaks, deepest =>
    let spaces := (c.rest.takeWhile (· == ' ')).length
    let c := c.advance (match indent with
      | none => spaces
      | some n => min spaces (n - c.column))
    let deepest := max deepest c.column
    if (indent.all fun n => decide (c.column < n)) && c.startsWith '\t' then none
    else match c.lineBreak? with
      | some (d, c) => blockBreaks? indent fuel c (breaks ++ [d]) deepest
      | none => some (breaks, deepest, c)

/-- The lines of a block. A line end folds to a space between two lines that start with no space. -/
def blockLines? (isFolded : Bool) (indent : Nat) (chomping : Chomping) :
    Nat → Cursor → List Char → List Char → List Char → Bool → Option Scanned
  | 0, _, _, _, _, _ => none
  | fuel + 1, c, text, lastBreak, breaks, wasSpaced =>
    if c.column == indent && !c.rest.isEmpty then
      let isSpaced := c.peek?.any isSpacing
      let joint :=
        if isFolded && lastBreak == ['\n'] && !wasSpaced && !isSpaced then
          if breaks.isEmpty then [' '] else []
        else lastBreak
      let (line, c) := c.span (!isBreak ·)
      let text := text ++ joint ++ breaks ++ line
      let (lastBreak, c) := match c.lineBreak? with
        | some (d, c) => ([d], c)
        | none => ([], c)
      match blockBreaks? (some indent) (c.rest.length + 1) c [] 0 with
      | none => none
      | some (breaks, _, c) =>
        blockLines? isFolded indent chomping fuel c text lastBreak breaks isSpaced
    else
      let tail := match chomping with
        | .strip => []
        | .clip => lastBreak
        | .keep => lastBreak ++ breaks
      some ⟨text ++ tail, c, false⟩

/-- A block scalar, the cursor being on its mark, inside a block that is indented to the given
column. -/
def blockScalar? (isFolded : Bool) (outer : Option Nat) (c : Cursor) : Option Scanned := do
  let (header, c) ← blockHeader? (c.advance 1)
  let given := header.increment.map (outer.getD 0 + ·)
  let (breaks, deepest, c) ← blockBreaks? given (c.rest.length + 1) c [] 0
  let least := match outer with
    | some n => n + 1
    | none => 1
  let indent := given.getD (max deepest least)
  blockLines? isFolded indent header.chomping (c.rest.length + 1) c [] [] breaks false

end InputDeck.Yaml
