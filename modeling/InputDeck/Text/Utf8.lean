/-!
# UTF-8

The decoder takes one byte at a time. It never gives up: where bytes do not form a character, the
longest run of them that could still have begun one counts as a single flaw.
-/

namespace InputDeck.Text.Utf8

/-- A character that is being decoded: how many bytes are missing, the value so far, and the bounds
of the next byte. -/
structure Pending where
  missing : Nat
  value : Nat
  low : Nat
  high : Nat

/-- What a first byte asks for; a byte that stands alone is not listed. -/
def lead? (b : Nat) : Option Pending :=
  if 0xc2 ≤ b && b ≤ 0xdf then some ⟨1, b - 0xc0, 0x80, 0xbf⟩
  else if b == 0xe0 then some ⟨2, 0, 0xa0, 0xbf⟩
  else if b == 0xed then some ⟨2, 0xd, 0x80, 0x9f⟩
  else if 0xe1 ≤ b && b ≤ 0xef then some ⟨2, b - 0xe0, 0x80, 0xbf⟩
  else if b == 0xf0 then some ⟨3, 0, 0x90, 0xbf⟩
  else if 0xf1 ≤ b && b ≤ 0xf3 then some ⟨3, b - 0xf0, 0x80, 0xbf⟩
  else if b == 0xf4 then some ⟨3, 4, 0x80, 0x8f⟩
  else none

def flaw : Option Char := none

/-- The characters of a byte sequence, with `none` for each flaw. -/
def decodeFrom : Option Pending → List UInt8 → List (Option Char)
  | none, [] => []
  | some _, [] => [flaw]
  | pending, byte :: bytes =>
    let b := byte.toNat
    let fresh : List (Option Char) :=
      if b < 0x80 then some (Char.ofNat b) :: decodeFrom none bytes
      else match lead? b with
        | some next => decodeFrom (some next) bytes
        | none => flaw :: decodeFrom none bytes
    match pending with
    | none => fresh
    | some p =>
      if p.low ≤ b && b ≤ p.high then
        let value := p.value * 64 + (b - 0x80)
        if p.missing ≤ 1 then some (Char.ofNat value) :: decodeFrom none bytes
        else decodeFrom (some ⟨p.missing - 1, value, 0x80, 0xbf⟩) bytes
      else flaw :: fresh

def encode (cs : List Char) : List UInt8 :=
  (String.ofList cs).toUTF8.toList

def decode? (bytes : List UInt8) : Option String :=
  ((decodeFrom none bytes).mapM id).map String.ofList

/-- The text of a byte sequence, with a replacement character for each flaw. -/
def decodeLossy (bytes : List UInt8) : String :=
  String.ofList ((decodeFrom none bytes).map (·.getD '�'))

end InputDeck.Text.Utf8
