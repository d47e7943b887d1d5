import InputDeck.Text.Hex
import InputDeck.Yaml.Cursor

/-!
# Tags

A tag names the type of a node. It is written in full between angle brackets, or as a handle and a
suffix, and a document says what its handles stand for. The octets of a tag may be written as
percent escapes.
-/

namespace InputDeck.Yaml

open InputDeck.Text

structure Tag where
  octets : List UInt8
  deriving DecidableEq

namespace Tag

def ofText (s : String) : Tag :=
  ⟨s.toUTF8.toList⟩

def standard (name : String) : Tag :=
  ofText ("tag:yaml.org,2002:" ++ name)

end Tag

/-- A tag as it is written. Without a handle the suffix is the tag. -/
structure WrittenTag where
  handle : String
  suffix : List UInt8
  deriving DecidableEq

/-- The characters of a tag. Some of the flow marks are allowed between brackets only. -/
def isTagChar (inBrackets : Bool) (c : Char) : Bool :=
  isNameChar c || ";/?:@&=+$.%!~*\x27()".toList.contains c ||
    (inBrackets && (c == ',' || c == '[' || c == ']'))

def escapedOctet? : List Char → Option Nat
  | '%' :: a :: b :: _ => (hexValue? a).bind fun a => (hexValue? b).map (16 * a + ·)
  | _ => none

def octetCount? (lead : Nat) : Option Nat :=
  if lead < 0x80 then some 1
  else if lead < 0xc0 then none
  else if lead < 0xe0 then some 2
  else if lead < 0xf0 then some 3
  else if lead < 0xf8 then some 4
  else none

def escapedTail? : Nat → Cursor → Option (List UInt8 × Cursor)
  | 0, c => some ([], c)
  | count + 1, c =>
    match escapedOctet? c.rest with
    | none => none
    | some n =>
      if n < 0x80 || 0xc0 ≤ n then none
      else (escapedTail? count (c.advance 3)).map fun (octets, c) => (UInt8.ofNat n :: octets, c)

def escapedChar? (c : Cursor) : Option (List UInt8 × Cursor) := do
  let lead ← escapedOctet? c.rest
  let count ← octetCount? lead
  let (octets, c) ← escapedTail? (count - 1) (c.advance 3)
  return (UInt8.ofNat lead :: octets, c)

def tagOctets? (inBrackets : Bool) : Nat → Cursor → Option (List UInt8 × Cursor)
  | 0, c => some ([], c)
  | fuel + 1, c =>
    match c.peek? with
    | none => some ([], c)
    | some d =>
      if !isTagChar inBrackets d then some ([], c)
      else if d == '%' then
        match escapedChar? c with
        | none => none
        | some (octets, c) =>
          (tagOctets? inBrackets fuel c).map fun (more, c) => (octets ++ more, c)
      else
        (tagOctets? inBrackets fuel (c.advance 1)).map fun (more, c) =>
          (UInt8.ofNat d.toNat :: more, c)

/-- A part of a tag that may not be empty. An octet of zero ends its value. -/
def tagPart? (inBrackets : Bool) (c : Cursor) : Option (List UInt8 × Cursor) :=
  match tagOctets? inBrackets c.rest.length c with
  | some ([], _) => none
  | some (octets, c) => some (octets.takeWhile (· != 0), c)
  | none => none

def bracketedTag? (c : Cursor) : Option (WrittenTag × Cursor) := do
  let (octets, c) ← tagPart? true c
  if c.startsWith '>' then return (⟨"", octets⟩, c.advance 1) else none

/-- A tag of a handle and a suffix. A mark alone is a tag of its own. -/
def handledTag? (c : Cursor) : Option (WrittenTag × Cursor) :=
  let (name, afterName) := (c.advance 1).span isNameChar
  if afterName.startsWith '!' then
    (tagPart? false (afterName.advance 1)).map fun (suffix, c) =>
      (⟨String.ofList ('!' :: name ++ ['!']), suffix⟩, c)
  else
    match tagOctets? false c.rest.length (c.advance 1) with
    | none => none
    | some (octets, c) =>
      match octets.takeWhile (· != 0) with
      | [] => some (⟨"", "!".toUTF8.toList⟩, c)
      | suffix => some (⟨"!", suffix⟩, c)

/-- The tag at the cursor. A space follows it, or a comma in a flow collection. -/
def tag? (inFlow : Bool) (c : Cursor) : Option (WrittenTag × Cursor) := do
  let (tag, c) ← if c.rest[1]? == some '<' then bracketedTag? (c.advance 2) else handledTag? c
  if c.isGapAt 0 || (inFlow && c.startsWith ',') then return (tag, c) else none

def directiveHandle? (c : Cursor) : Option (String × Cursor) :=
  if !c.startsWith '!' then none
  else
    let (name, afterName) := (c.advance 1).span isNameChar
    if afterName.startsWith '!' then
      some (String.ofList ('!' :: name ++ ['!']), afterName.advance 1)
    else if name.isEmpty then some ("!", afterName)
    else none

end InputDeck.Yaml
