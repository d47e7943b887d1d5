import InputDeck.Text.Composition
import InputDeck.Text.Cursive
import InputDeck.Text.Joining
import InputDeck.Text.Lowercase
import InputDeck.Text.Punycode
import InputDeck.Uri.Domain.Mapping
import InputDeck.Uri.Domain.Refused

/-!
# Domains

The name of a domain is a row of labels with dots between them. Different spellings of a name are
brought to one, and a label beyond ASCII is written in Punycode after `xn--`. A label that comes in
that form has to be what writing it gives.
-/

namespace InputDeck.Uri.Domain

open InputDeck.Text

/-! ## Spelling -/

def isForbidden (c : Char) : Bool :=
  c.toNat ≤ 0x20 || c.toNat == 0x7f ||
    ['%', '#', '/', ':', '<', '>', '?', '@', '[', '\\', ']', '^', '|'].contains c

/-- The capitals that stand for themselves; their small forms are other spellings of them. -/
def isPlainCapital (c : Char) : Bool :=
  0x13a0 ≤ c.toNat && c.toNat ≤ 0x13f5

/-- The one spelling of a character, unless it may not stand in a domain. -/
def spelling? (c : Char) : Option (List Char) :=
  if c.toNat < 128 then if isForbidden c then none else some [c.toLower]
  else if isRefused c then none
  else if isIgnored c then some []
  else match textIn? spellings c with
    | some text => some text
    | none => some (if isPlainCapital c then [c] else lowercaseChar c)

def respelled? (cs : List Char) : Option (List Char) :=
  (cs.mapM spelling?).map fun pieces => composed pieces.flatten

/-! ## Labels -/

def isAscii (cs : List Char) : Bool :=
  cs.all fun c => c.toNat < 128

def isConnector (c : Char) : Bool :=
  inRanges [(0x5f, 0x5f), (0x200c, 0x200d), (0x203f, 0x2040), (0x2054, 0x2054), (0xfe33, 0xfe34),
    (0xfe4d, 0xfe4f), (0xff3f, 0xff3f)] c.toNat

def isMark (c : Char) : Bool :=
  isJoining c && !isConnector c

def viramaClass : Nat := 9

def joins (before after : List Char) : Bool :=
  (before.dropWhile isTransparent).head?.any joinsAfter &&
    (after.dropWhile isTransparent).head?.any joinsBefore

/-- The two joiners stand only where they make a difference. `before` holds what was read, the last
character first. -/
def joinersFit (before : List Char) : List Char → Bool
  | [] => true
  | c :: rest =>
    let afterVirama := before.head?.any fun d => combiningClass d == viramaClass
    let fits :=
      if c == '\u200c' then afterVirama || joins before rest
      else if c == '\u200d' then afterVirama
      else true
    fits && joinersFit (c :: before) rest

def isLabel (cs : List Char) : Bool :=
  !cs.head?.any isMark && joinersFit [] cs

structure Label where
  shown : List Char
  written : List Char

def codedLead : List Char := ['x', 'n', '-', '-']

def Label.ofText? (cs : List Char) : Option Label :=
  match afterLead? codedLead cs with
  | some code =>
    match Punycode.decode? code with
    | none => none
    | some shown =>
      if isAscii code && !isAscii shown && respelled? shown == some shown && isLabel shown then
        some ⟨shown, cs⟩
      else none
  | none =>
    if isAscii cs then some ⟨cs, cs⟩
    else if isLabel cs then some ⟨cs, codedLead ++ Punycode.encode cs⟩
    else none

/-! ## Direction -/

def runsLeft (c : Char) : Bool :=
  direction c == .rightToLeft || direction c == .arabicNumber

/-- A label that runs one way holds nothing that would make its order ambiguous. -/
def keepsOrder (label : List Char) : Bool :=
  let kinds := label.map direction
  match kinds with
  | [] => true
  | .leftToRight :: rest =>
    let core := rest.reverse.dropWhile (· == .mark)
    core.head?.all (fun d => d == .leftToRight || d == .europeanNumber) &&
      !core.any fun d => d == .rightToLeft || d == .arabicNumber
  | .rightToLeft :: rest =>
    let core := rest.reverse.dropWhile (· == .mark)
    core.head?.all (fun d => d == .rightToLeft || d == .europeanNumber || d == .arabicNumber) &&
      !core.contains .leftToRight &&
      !(core.contains .europeanNumber && core.contains .arabicNumber)
  | _ => false

/-- The normal form of a domain. If any of its labels runs to the left, all of them keep their
order. -/
def normal? (cs : List Char) : Option String :=
  ((respelled? cs).bind fun text => (splitAtEach '.' text).mapM Label.ofText?).bind fun labels =>
    if !labels.any (·.shown.any runsLeft) || labels.all (keepsOrder ·.shown) then
      some (".".intercalate (labels.map fun label => String.ofList label.written))
    else none

end InputDeck.Uri.Domain
