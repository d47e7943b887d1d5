import InputDeck.Yaml.Scalar
import InputDeck.Yaml.Tag

/-!
# Tokens

A YAML text is a row of tokens. Those that open and close blocks are not written: a block opens
where a line is indented further than the block around it and closes where a line is indented less.
A scalar turns out to be a key only when its colon is reached, so until then its place is kept, and
the token of the key is put in there. The colon stands on the line of the key and not far from it.
-/

namespace InputDeck.Yaml

inductive Token where
  | version (major minor : Nat)
  | tagHandle (handle : String) (stem : List UInt8)
  | documentStart
  | documentEnd
  | blockSequence
  | blockMapping
  | blockEnd
  | flowSequence
  | flowSequenceEnd
  | flowMapping
  | flowMappingEnd
  | item
  | comma
  | key
  | value
  | reference (name : String)
  | anchor (name : String)
  | tag (written : WrittenTag)
  | scalar (style : Style) (text : String)
  deriving DecidableEq

structure Candidate where
  /-- How many tokens came before. -/
  place : Nat
  index : Nat
  line : Nat
  column : Nat
  /-- Nothing but a key can stand there. -/
  isRequired : Bool

/-- The most characters between the start of a key and its colon. -/
def keyLimit : Nat := 1024

structure Layout where
  cursor : Cursor
  tokens : Array Token
  /-- The columns of the open blocks, the innermost first. -/
  indents : List Nat
  allowsKey : Bool
  /-- Where a key may have started in the innermost flow collection, and in each one around it. -/
  candidate : Option Candidate
  outer : List (Option Candidate)

namespace Layout

def ofText (s : String) : Layout :=
  { cursor := .ofText s, tokens := #[], indents := [], allowsKey := true, candidate := none,
    outer := [] }

def inFlow (l : Layout) : Bool :=
  !l.outer.isEmpty

def push (l : Layout) (t : Token) : Layout :=
  { l with tokens := l.tokens.push t }

def insert (l : Layout) (place : Nat) (t : Token) : Layout :=
  { l with tokens := l.tokens.extract 0 place ++ #[t] ++ l.tokens.extract place l.tokens.size }

def take (l : Layout) (count : Nat) (t : Token) : Layout :=
  { l.push t with cursor := l.cursor.advance count }

def dropCandidate? (l : Layout) : Option Layout :=
  if l.candidate.any (·.isRequired) then none else some { l with candidate := none }

def offerKey? (l : Layout) : Option Layout :=
  if !l.allowsKey then some l
  else
    let k : Candidate :=
      { place := l.tokens.size, index := l.cursor.index, line := l.cursor.line,
        column := l.cursor.column,
        isRequired := !l.inFlow && l.indents.head? == some l.cursor.column }
    l.dropCandidate?.map fun l => { l with candidate := some k }

def isStale (l : Layout) (k : Candidate) : Bool :=
  k.line < l.cursor.line || k.index + keyLimit < l.cursor.index

def dropStale? (l : Layout) : Option Layout :=
  if (l.candidate :: l.outer).any fun k => k.any fun k => l.isStale k && k.isRequired then none
  else
    let fresh (k : Option Candidate) := k.filter (!l.isStale ·)
    some { l with candidate := fresh l.candidate, outer := l.outer.map fresh }

def openBlock (l : Layout) (column place : Nat) (t : Token) : Layout :=
  if l.inFlow || !l.indents.head?.all (decide <| · < column) then l
  else { l.insert place t with indents := column :: l.indents }

def closeBlocks (l : Layout) (column : Nat) : Layout :=
  if l.inFlow then l
  else
    let closed := l.indents.takeWhile (decide <| column < ·)
    { l with
      tokens := l.tokens ++ Array.replicate closed.length .blockEnd
      indents := l.indents.drop closed.length }

def closeAllBlocks (l : Layout) : Layout :=
  if l.inFlow then l
  else { l with tokens := l.tokens ++ Array.replicate l.indents.length .blockEnd, indents := [] }

/-- Passes over spaces, comments and line ends. A tab may not stand where a key is allowed. -/
def skipGap : Nat → Layout → Layout
  | 0, l => l
  | fuel + 1, l =>
    let c := if l.cursor.index == 0 && l.cursor.startsWith '\ufeff' then l.cursor.advance 1
      else l.cursor
    let c := c.skipWhile fun d => d == ' ' || (d == '\t' && (l.inFlow || !l.allowsKey))
    let c := c.skipComment
    match c.lineBreak? with
    | some (_, c) => skipGap fuel { l with cursor := c, allowsKey := l.allowsKey || !l.inFlow }
    | none => { l with cursor := c }

def versionNumber? (c : Cursor) : Option (Nat × Cursor) :=
  let (digits, c) := c.span Char.isDigit
  if digits.isEmpty || 9 < digits.length then none
  else some (digits.foldl (fun n d => 10 * n + (d.toNat - '0'.toNat)) 0, c)

def directiveToken? (c : Cursor) : Option (Token × Cursor) := do
  let (name, c) := c.span isNameChar
  if !c.isGapAt 0 then none
  else
    let c := c.skipWhile isSpacing
    if name == "YAML".toList then
      let (major, c) ← versionNumber? c
      if !c.startsWith '.' then none
      else
        let (minor, c) ← versionNumber? (c.advance 1)
        return (.version major minor, c)
    else if name == "TAG".toList then
      let (handle, c) ← directiveHandle? c
      if !c.peek?.any isSpacing then none
      else
        let (stem, c) ← tagPart? true (c.skipWhile isSpacing)
        if c.isGapAt 0 then return (.tagHandle handle stem, c) else none
    else none

def directive? (l : Layout) : Option Layout := do
  let l ← l.closeAllBlocks.dropCandidate?
  let (t, c) ← directiveToken? (l.cursor.advance 1)
  let c ← c.restOfLine?
  return { l.push t with cursor := c, allowsKey := false }

def documentMarker? (l : Layout) (t : Token) : Option Layout := do
  let l ← l.closeAllBlocks.dropCandidate?
  return { l.take 3 t with allowsKey := false }

def openFlow? (l : Layout) (t : Token) : Option Layout := do
  let l ← l.offerKey?
  return { l.take 1 t with
    candidate := none, outer := l.candidate :: l.outer, allowsKey := true }

def closeFlow? (l : Layout) (t : Token) : Option Layout := do
  let l ← l.dropCandidate?
  let l := match l.outer with
    | [] => l
    | candidate :: outer => { l with candidate, outer }
  return { l.take 1 t with allowsKey := false }

def comma? (l : Layout) : Option Layout := do
  let l ← l.dropCandidate?
  return { l.take 1 .comma with allowsKey := true }

/-- Opens the block of an item or a key that is marked as such, where one may start. -/
def openAtCursor? (l : Layout) (t : Token) : Option Layout :=
  if l.inFlow then some l
  else if l.allowsKey then some (l.openBlock l.cursor.column l.tokens.size t)
  else none

def item? (l : Layout) : Option Layout := do
  let l ← l.openAtCursor? .blockSequence
  let l ← l.dropCandidate?
  return { l.take 1 .item with allowsKey := true }

def markedKey? (l : Layout) : Option Layout := do
  let l ← l.openAtCursor? .blockMapping
  let l ← l.dropCandidate?
  return { l.take 1 .key with allowsKey := !l.inFlow }

/-- A colon: it makes a key of the candidate, or stands after a key that was marked as such. -/
def colon? (l : Layout) : Option Layout :=
  match l.candidate with
  | some k =>
    let l := (l.insert k.place .key).openBlock k.column k.place .blockMapping
    some { l.take 1 .value with candidate := none, allowsKey := false }
  | none =>
    (l.openAtCursor? .blockMapping).map fun l => { l.take 1 .value with allowsKey := !l.inFlow }

def named? (l : Layout) (token : String → Token) : Option Layout := do
  let l ← l.offerKey?
  let (name, c) := (l.cursor.advance 1).span isNameChar
  let isEnd := c.isGapAt 0 || c.peek?.any "?:,]\x7d%@\x60".toList.contains
  if name.isEmpty || !isEnd then none
  else return { l.push (token (String.ofList name)) with cursor := c, allowsKey := false }

def tagged? (l : Layout) : Option Layout := do
  let l ← l.offerKey?
  let (tag, c) ← tag? l.inFlow l.cursor
  return { l.push (.tag tag) with cursor := c, allowsKey := false }

def addScalar (l : Layout) (style : Style) (s : Scanned) (allowsKey : Bool) : Layout :=
  { l.push (.scalar style (String.ofList s.text)) with cursor := s.cursor, allowsKey }

def block? (l : Layout) (isFolded : Bool) : Option Layout := do
  let l ← l.dropCandidate?
  let s ← blockScalar? isFolded l.indents.head? l.cursor
  return l.addScalar (if isFolded then .folded else .literal) s true

def quoted? (l : Layout) (isDouble : Bool) : Option Layout := do
  let l ← l.offerKey?
  let s ← quotedScalar? isDouble l.cursor
  return l.addScalar .quoted s false

def plain? (l : Layout) : Option Layout := do
  let l ← l.offerKey?
  let column := match l.indents with
    | [] => 0
    | n :: _ => n + 1
  let s ← plainScalar? l.inFlow column l.cursor
  return l.addScalar .plain s s.isBroken

/-- A plain scalar may start with a mark of a block if no space follows it; in a flow collection
only with a dash. -/
def startsPlain (l : Layout) (d : Char) : Bool :=
  if d == '-' then !(l.cursor.rest[1]?.any isSpacing)
  else if d == '?' || d == ':' then !l.inFlow && !l.cursor.isGapAt 1
  else !isSpacing d && !isBreak d && !isFlowMark d &&
    !"#&*!|>\x27\"%@\x60".toList.contains d

def tokenAt? (l : Layout) (d : Char) : Option Layout :=
  let isSpaced := l.cursor.isGapAt 1
  if d == '%' && l.cursor.column == 0 then l.directive?
  else if l.cursor.isMarker '-' then l.documentMarker? .documentStart
  else if l.cursor.isMarker '.' then l.documentMarker? .documentEnd
  else if d == '[' then l.openFlow? .flowSequence
  else if d == '\x7b' then l.openFlow? .flowMapping
  else if d == ']' then l.closeFlow? .flowSequenceEnd
  else if d == '\x7d' then l.closeFlow? .flowMappingEnd
  else if d == ',' then l.comma?
  else if d == '-' && isSpaced then l.item?
  else if d == '?' && (l.inFlow || isSpaced) then l.markedKey?
  else if d == ':' && (l.inFlow || isSpaced) then l.colon?
  else if d == '*' then l.named? .reference
  else if d == '&' then l.named? .anchor
  else if d == '!' then l.tagged?
  else if d == '|' && !l.inFlow then l.block? false
  else if d == '>' && !l.inFlow then l.block? true
  else if d == '\x27' then l.quoted? false
  else if d == '"' then l.quoted? true
  else if l.startsPlain d then l.plain?
  else none

/-- The tokens up to the end of the text. Each round takes a character, so `fuel` need not exceed
the length of the text by more than one. -/
def finish? : Nat → Layout → Option (Array Token)
  | 0, _ => none
  | fuel + 1, l =>
    match (skipGap (l.cursor.rest.length + 1) l).dropStale? with
    | none => none
    | some l =>
      let l := l.closeBlocks l.cursor.column
      match l.cursor.peek? with
      | none => l.closeAllBlocks.dropCandidate?.map (·.tokens)
      | some d =>
        match l.tokenAt? d with
        | none => none
        | some l => finish? fuel l

end Layout

def Token.ofText? (s : String) : Option (List Token) :=
  if s.toList.all isAllowed then
    (Layout.finish? (s.length + 1) (.ofText s)).map Array.toList
  else none

end InputDeck.Yaml
