import InputDeck.Text.Hex
import InputDeck.Text.Search

/-!
# Internet addresses

A host can be given by its address. Addresses of four bytes are written with dots, and in looser
ways that are read as well; addresses of eight groups of sixteen bits are written with colons, the
longest run of zeros left out.
-/

namespace InputDeck.Uri

open InputDeck.Text

/-! ## Four bytes -/

namespace Address4

def digits? (base : Nat) (cs : List Char) : Option Nat :=
  cs.foldlM (fun n c =>
    (hexValue? c).bind fun d => if d < base then some (n * base + d) else none) 0

/-- A number in decimal, in octal with a zero in front, or in hexadecimal after `0x`. -/
def number? : List Char → Option Nat
  | [] => none
  | '0' :: 'x' :: cs => digits? 16 cs
  | '0' :: 'X' :: cs => digits? 16 cs
  | '0' :: c :: cs => digits? 8 (c :: cs)
  | cs => digits? 10 cs

def parts (cs : List Char) : List (List Char) :=
  match (splitAtEach '.' cs).reverse with
  | [] :: p :: ps => (p :: ps).reverse
  | ps => ps.reverse

def isMeant (cs : List Char) : Bool :=
  match (parts cs).getLast? with
  | none => false
  | some last => !last.isEmpty && (last.all Char.isDigit || (number? last).isSome)

/-- Each number but the last gives one byte, from the highest on; the last gives all that are
left. -/
def ofNumbers? (numbers : List Nat) : Option Nat :=
  match numbers.reverse with
  | [] => none
  | last :: lead =>
    if 4 ≤ lead.length || lead.any (255 < ·) || Nat.pow 256 (4 - lead.length) ≤ last then none
    else
      some (lead.reverse.foldl (fun n byte => n * 256 + byte) 0 * Nat.pow 256 (4 - lead.length) +
        last)

def parse? (cs : List Char) : Option Nat :=
  ((parts cs).mapM number?).bind ofNumbers?

def text (address : Nat) : String :=
  ".".intercalate ([3, 2, 1, 0].map fun place => toString (address / Nat.pow 256 place % 256))

end Address4

/-! ## Eight groups -/

namespace Address6

def splitGap : List Char → List Char × Option (List Char)
  | [] => ([], none)
  | ':' :: ':' :: cs => ([], some cs)
  | c :: cs =>
    let (before, after) := splitGap cs
    (c :: before, after)

def group? (cs : List Char) : Option Nat :=
  if cs.isEmpty || 4 < cs.length then none else Address4.digits? 16 cs

def byte? (cs : List Char) : Option Nat :=
  if cs.isEmpty || (1 < cs.length && cs.head? == some '0') then none
  else (Address4.digits? 10 cs).filter (· < 256)

def dotted? (cs : List Char) : Option (List Nat) :=
  match (splitAtEach '.' cs).mapM byte? with
  | some [a, b, c, d] => some [a * 256 + b, c * 256 + d]
  | _ => none

/-- The groups between the colons; the last ones may be in dotted form where that is allowed. -/
def groups? (dottedEnd : Bool) (cs : List Char) : Option (List Nat) :=
  if cs.isEmpty then some []
  else
    let pieces := splitAtEach ':' cs
    let last := pieces.getLastD []
    match pieces.dropLast.mapM group?, if dottedEnd then dotted? last else none with
    | some lead, some two => some (lead ++ two)
    | some lead, none => (group? last).map fun n => lead ++ [n]
    | none, _ => none

/-- A double colon stands for at least one group of zeros. -/
def parse? (cs : List Char) : Option (List Nat) :=
  match splitGap cs with
  | (all, none) => (groups? true all).filter (·.length == 8)
  | (left, some right) =>
    match groups? false left, groups? true right with
    | some before, some after =>
      if before.length + after.length < 8 then
        some (before ++ List.replicate (8 - (before.length + after.length)) 0 ++ after)
      else none
    | _, _ => none

def zeroLead (groups : List Nat) : Nat :=
  (groups.takeWhile (· == 0)).length

def longestRun (groups : List Nat) : Nat × Nat :=
  (List.range groups.length).foldl
    (fun best i =>
      let length := zeroLead (groups.drop i)
      if best.2 < length then (i, length) else best)
    (0, 0)

def groupsText (groups : List Nat) : String :=
  ":".intercalate (groups.map fun n => String.ofList (Nat.toDigits 16 n))

/-- A run of zeros is left out if there are two at least. -/
def text (groups : List Nat) : String :=
  let (start, length) := longestRun groups
  if length < 2 then groupsText groups
  else groupsText (groups.take start) ++ "::" ++ groupsText (groups.drop (start + length))

end Address6

end InputDeck.Uri
