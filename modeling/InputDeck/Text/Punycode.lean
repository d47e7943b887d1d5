import InputDeck.Text.Search

/-!
# Punycode

A text is written with letters, digits and hyphens alone: its ASCII characters come first, and then
the others in the order of their code points, each as the distance from the one before. A distance
is a row of digits, the lowest first; how far the digits of one reach adapts to the distances so
far.
-/

namespace InputDeck.Text.Punycode

def digitChar (d : Nat) : Char :=
  if d < 26 then Char.ofNat ('a'.toNat + d) else Char.ofNat ('0'.toNat + (d - 26))

def digitValue? (c : Char) : Option Nat :=
  if c.isAlpha then some (c.toLower.toNat - 'a'.toNat)
  else if c.isDigit then some (c.toNat - '0'.toNat + 26)
  else none

/-- A digit below the threshold of its place is the last one. -/
def threshold (place bias : Nat) : Nat :=
  if place ≤ bias then 1 else if bias + 26 ≤ place then 26 else place - bias

theorem threshold_pos (place bias : Nat) : 1 ≤ threshold place bias := by
  unfold threshold
  split
  · omega
  · split <;> omega

def firstBias : Nat := 72

def firstCode : Nat := 128

def scaled (distance places : Nat) : Nat :=
  if 455 < distance then scaled (distance / 35) (places + 36)
  else places + 36 * distance / (distance + 38)
termination_by distance
decreasing_by exact Nat.div_lt_self (by omega) (by omega)

/-- The bias after a distance, when `count` characters are in place. -/
def adapted (distance count : Nat) (first : Bool) : Nat :=
  let reduced := if first then distance / 700 else distance / 2
  scaled (reduced + reduced / count) 0

/-! ## Writing -/

def distanceDigits (bias place distance : Nat) : List Char :=
  let t := threshold place bias
  if distance < t then [digitChar distance]
  else
    digitChar (t + (distance - t) % (36 - t)) ::
      distanceDigits bias (place + 36) ((distance - t) / (36 - t))
termination_by distance
decreasing_by
  have positive := threshold_pos place bias
  calc (distance - threshold place bias) / (36 - threshold place bias)
      ≤ distance - threshold place bias := Nat.div_le_self _ _
    _ < distance := by omega

/-- The digits written so far, the distance since the last of them, and how many characters are in
place. -/
structure Writing where
  digits : List Char
  distance : Nat
  bias : Nat
  placed : Nat

/-- Goes past one character of the text while those with the code `code` are written. -/
def Writing.pass (basic code : Nat) (w : Writing) (c : Char) : Writing :=
  if c.toNat < code then { w with distance := w.distance + 1 }
  else if c.toNat = code then
    { digits := w.digits ++ distanceDigits w.bias 36 w.distance
      distance := 0
      bias := adapted w.distance (w.placed + 1) (w.placed == basic)
      placed := w.placed + 1 }
  else w

def Writing.run (text : List Char) (basic : Nat) (w : Writing) (next : Nat) : List Nat → Writing
  | [] => w
  | code :: codes =>
    let moved := { w with distance := w.distance + (code - next) * (w.placed + 1) }
    let passed := text.foldl (pass basic code) moved
    run text basic { passed with distance := passed.distance + 1 } (code + 1) codes

def insertCode (code : Nat) : List Nat → List Nat
  | [] => [code]
  | c :: codes =>
    if code < c then code :: c :: codes
    else if code = c then c :: codes
    else c :: insertCode code codes

def isBasic (c : Char) : Bool :=
  c.toNat < 128

def encode (text : List Char) : List Char :=
  let basic := text.filter isBasic
  let codes := ((text.filter (!isBasic ·)).map Char.toNat).foldr insertCode []
  let written := Writing.run text basic.length ⟨[], 0, firstBias, basic.length⟩ firstCode codes
  basic ++ (if basic.isEmpty then [] else ['-']) ++ written.digits

/-! ## Reading -/

/-- Reads one distance on top of `sum`; what is left is shorter than the text. -/
def distance? (bias place weight sum : Nat) :
    (text : List Char) → Option (Nat × { rest : List Char // rest.length < text.length })
  | [] => none
  | c :: rest =>
    match digitValue? c with
    | none => none
    | some d =>
      let t := threshold place bias
      if d < t then some (sum + d * weight, ⟨rest, Nat.lt_succ_self _⟩)
      else
        (distance? bias (place + 36) (weight * (36 - t)) (sum + d * weight) rest).map
          fun (sum, left) => (sum, ⟨left.1, Nat.lt_succ_of_lt left.2⟩)

def insertAll (bias code position : Nat) (done : List Char) : List Char → Option (List Char)
  | [] => some done
  | c :: rest =>
    match distance? bias 36 1 position (c :: rest) with
    | none => none
    | some (sum, left) =>
      let count := done.length + 1
      let code' := code + sum / count
      if Nat.isValidChar code' then
        insertAll (adapted (sum - position) count (position == 0)) code' (sum % count + 1)
          (done.insertIdx (sum % count) (Char.ofNat code')) left.1
      else none
termination_by text => text.length
decreasing_by simpa using left.2

def splitLast (cs : List Char) : List Char × List Char :=
  let back := cs.reverse
  (((back.dropWhile (· != '-')).drop 1).reverse, (back.takeWhile (· != '-')).reverse)

def decode? (cs : List Char) : Option (List Char) :=
  let (basic, digits) := splitLast cs
  if basic.all isBasic then insertAll firstBias firstCode 0 basic digits else none

end InputDeck.Text.Punycode
