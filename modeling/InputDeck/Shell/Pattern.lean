import InputDeck.Shell.Octets

/-!
# Patterns and fields

An expanded word is a row of glyphs. It is divided into fields where separators stand in values, or
it is a pattern. In a pattern a star stands for any text, a question mark for any character and
brackets for one of some characters, unless they are quoted. In a regular expression a star repeats
what stands before it, and a dot is any character.
-/

namespace InputDeck.Shell

structure Glyph where
  char : Char
  isQuoted : Bool
  isResult : Bool
  deriving DecidableEq, Repr

def Glyph.isMark (g : Glyph) (c : Char) : Bool :=
  g.char == c && !g.isQuoted

/-! ## Fields -/

inductive Bit where
  | glyph (g : Glyph)
  /-- A quoted text, which makes a field even if it is empty. -/
  | presence
  | fieldEnd
  deriving DecidableEq, Repr

def Bit.glyph? : Bit → Option Glyph
  | glyph g => some g
  | presence => none
  | fieldEnd => some ⟨' ', true, false⟩

def Bit.text (bits : List Bit) : Octets :=
  bits.filterMap fun b => b.glyph?.map Glyph.char

/-- The fields of an expanded word; `current` is the one at hand, and `afterSpace` says that blanks
have just ended one. -/
def fieldsFrom (separators : Octets) : Option Octets → Bool → List Bit → List Octets
  | current, _, [] => current.toList
  | current, afterSpace, .presence :: rest =>
    fieldsFrom separators (some (current.getD [])) afterSpace rest
  | current, _, .fieldEnd :: rest => current.toList ++ fieldsFrom separators none false rest
  | current, afterSpace, .glyph g :: rest =>
    if !g.isResult || !separators.contains g.char then
      fieldsFrom separators (some (current.getD [] ++ [g.char])) false rest
    else
      match current, isSpaceChar g.char with
      | some field, isSpace => field :: fieldsFrom separators none isSpace rest
      | none, true => fieldsFrom separators none afterSpace rest
      | none, false =>
        (if afterSpace then [] else [[]]) ++ fieldsFrom separators none false rest

/-! ## Characters between brackets -/

/-- The ranges up to the closing bracket, which as the first of them stands for itself. -/
def ranges? : Nat → Bool → List Glyph → Option (List (Char × Char) × List Glyph)
  | 0, _, _ => none
  | _ + 1, _, [] => none
  | fuel + 1, isFirst, g :: rest =>
    if g.isMark ']' && !isFirst then some ([], rest)
    else
      let (high, rest) := match rest with
        | dash :: high :: more =>
          if dash.isMark '-' && !high.isMark ']' then (high, more) else (g, rest)
        | _ => (g, rest)
      (ranges? fuel false rest).map fun (rs, rest) => ((g.char, high.char) :: rs, rest)

structure Choice where
  isNegated : Bool
  ranges : List (Char × Char)
  deriving DecidableEq, Repr

def Choice.holds (choice : Choice) (c : Char) : Bool :=
  (choice.ranges.any fun (low, high) => low ≤ c && c ≤ high) != choice.isNegated

def Choice.read? (gs : List Glyph) : Option (Choice × List Glyph) :=
  let isNegated := gs.head?.any fun g => g.isMark '!' || g.isMark '^'
  let gs := if isNegated then gs.drop 1 else gs
  (ranges? (gs.length + 1) true gs).map fun (ranges, rest) => (⟨isNegated, ranges⟩, rest)

/-! ## Patterns -/

inductive PatternItem where
  | anyText
  | oneOf (choice : Choice)
  deriving DecidableEq, Repr

abbrev Pattern := List PatternItem

def PatternItem.exactly (c : Char) : PatternItem :=
  .oneOf ⟨false, [(c, c)]⟩

def PatternItem.anyChar : PatternItem :=
  .oneOf ⟨true, []⟩

namespace Pattern

def ofGlyphs : Nat → List Glyph → Pattern
  | 0, _ => []
  | _ + 1, [] => []
  | fuel + 1, g :: rest =>
    if g.isMark '*' then .anyText :: ofGlyphs fuel rest
    else if g.isMark '?' then .anyChar :: ofGlyphs fuel rest
    else match g.isMark '[', Choice.read? rest with
      | true, some (choice, rest) => .oneOf choice :: ofGlyphs fuel rest
      | _, _ => .exactly g.char :: ofGlyphs fuel rest

def ofWord (gs : List Glyph) : Pattern :=
  ofGlyphs (gs.length + 1) gs

def covers : Pattern → Octets → Bool
  | [], text => text.isEmpty
  | .anyText :: ps, [] => covers ps []
  | .anyText :: ps, c :: rest => covers ps (c :: rest) || covers (.anyText :: ps) rest
  | .oneOf choice :: ps, c :: rest => choice.holds c && covers ps rest
  | .oneOf _ :: _, [] => false
termination_by ps text => (ps.length, text.length)

def trim (p : Pattern) (atEnd longest : Bool) (text : Octets) : Octets :=
  let cuts := List.range (text.length + 1)
  let tried := if atEnd = longest then cuts else cuts.reverse
  match tried.find? fun n => p.covers (if atEnd then text.drop n else text.take n) with
  | some n => if atEnd then text.take n else text.drop n
  | none => text

end Pattern

/-! ## Regular expressions -/

inductive RegularItem where
  | oneOf (choice : Choice)
  | many (choice : Choice)
  | lineStart
  | lineEnd
  | opening (group : Nat)
  | closing (group : Nat)
  deriving DecidableEq, Repr

abbrev Regular := List RegularItem

namespace Regular

def repeated (choice : Choice) : Octets → RegularItem × Octets
  | '*' :: rest => (.many choice, rest)
  | rest => (.oneOf choice, rest)

/-- The items of a basic regular expression; `count` groups were opened, those in `opened` not
closed yet. -/
def ofOctets : Nat → Nat → List Nat → Octets → Regular
  | 0, _, _, _ => []
  | _ + 1, _, _, [] => []
  | fuel + 1, count, opened, text =>
    match text with
    | ['$'] => [.lineEnd]
    | '\\' :: '(' :: rest => .opening count :: ofOctets fuel (count + 1) (count :: opened) rest
    | '\\' :: ')' :: rest =>
      .closing (opened.headD 0) :: ofOctets fuel count (opened.drop 1) rest
    | c :: rest =>
      let plain := rest.map fun c => (⟨c, false, false⟩ : Glyph)
      let (choice, rest) : Choice × Octets := match c, rest, Choice.read? plain with
        | '.', _, _ => (⟨true, []⟩, rest)
        | '\\', d :: rest, _ => (⟨false, [(d, d)]⟩, rest)
        | '[', _, some (choice, after) => (choice, after.map Glyph.char)
        | _, _, _ => (⟨false, [(c, c)]⟩, rest)
      let (item, rest) := repeated choice rest
      item :: ofOctets fuel count opened rest
    | [] => []

def ofText (text : Octets) : Regular :=
  match text with
  | '^' :: rest => .lineStart :: ofOctets (text.length + 1) 1 [] rest
  | _ => ofOctets (text.length + 1) 1 [] text

/-- The groups of a match by their numbers: what follows the opening, and what was taken. -/
abbrev Groups := List (Nat × Octets)

/-- What follows a match at the start of a text, with its groups. A repetition takes as much as it
can. -/
def after? (isStart : Bool) : Regular → Octets → Groups → Option (Octets × Groups)
  | [], text, groups => some (text, groups)
  | .lineStart :: items, text, groups => if isStart then after? isStart items text groups else none
  | .lineEnd :: items, text, groups =>
    if text.isEmpty then after? isStart items text groups else none
  | .opening n :: items, text, groups => after? isStart items text ((n, text) :: groups)
  | .closing n :: items, text, groups =>
    let start := (groups.lookup n).getD []
    after? isStart items text ((n, start.take (start.length - text.length)) :: groups)
  | .oneOf choice :: items, c :: rest, groups =>
    if choice.holds c then after? isStart items rest groups else none
  | .oneOf _ :: _, [], _ => none
  | .many _ :: items, [], groups => after? isStart items [] groups
  | .many choice :: items, c :: rest, groups =>
    (if choice.holds c then after? isStart (.many choice :: items) rest groups else none).or
      (after? isStart items (c :: rest) groups)
termination_by items text => (text.length, items.length)

/-- What follows a match at the start of a text, with its groups; the whole match is number zero. -/
def matchAt? (r : Regular) (isStart : Bool) (text : Octets) : Option (Octets × Groups) :=
  (r.after? isStart text []).map fun (rest, groups) =>
    (rest, (0, text.take (text.length - rest.length)) :: groups)

def find? (r : Regular) (isStart : Bool) (text : Octets) : Option (Octets × Octets × Groups) :=
  match r.matchAt? isStart text, text with
  | some found, _ => some ([], found)
  | none, c :: more => (r.find? false more).map fun (before, found) => (c :: before, found)
  | none, [] => none

end Regular

end InputDeck.Shell
