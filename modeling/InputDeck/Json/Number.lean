import InputDeck.Decimal.Shortest

/-!
# Numbers of a JSON text

A number is kept as it is written. Its value is a 64-bit integer if it is written without point and
exponent and fits; otherwise it is a double, and there is no value if it is too large for one.
-/

namespace InputDeck.Json

open InputDeck.Decimal

structure Number where
  negative : Bool
  whole : List Char
  fraction : Option (List Char)
  /-- The sign of the exponent and its digits. -/
  exponent : Option (Bool × List Char)
  deriving DecidableEq, Repr

/-- The value of a number; `negative` may hold of zero. -/
inductive NumberValue where
  | integer (value : Int)
  | double (negative : Bool) (magnitude : Double)
  deriving DecidableEq, Repr

namespace Number

def ofNat (n : Nat) : Number :=
  ⟨false, Nat.toDigits 10 n, none, none⟩

def ofInt : Int → Number
  | .ofNat n => ofNat n
  | .negSucc n => { ofNat (n + 1) with negative := true }

def digitValue (c : Char) : Nat :=
  c.toNat - '0'.toNat

def wordLimit : Nat := Nat.pow 2 64

/-- Appends digits to a significand while it stays below the word limit, and counts those left. -/
def absorb (significand : Nat) : List Char → Nat × Nat
  | [] => (significand, 0)
  | d :: ds =>
    let next := significand * 10 + digitValue d
    if next < wordLimit then absorb next ds else (significand, ds.length + 1)

def exponentValue : Option (Bool × List Char) → Int
  | none => 0
  | some (negative, digits) =>
    let n := digits.foldl (fun n d => n * 10 + digitValue d) 0
    if negative then -n else n

/-- The double that a number is read as; digits beyond the word limit only move the point. -/
def double? (n : Number) : Option Double :=
  let (head, skipped) := absorb 0 n.whole
  let fraction := n.fraction.getD []
  let (significand, dropped) := absorb head fraction
  let places : Int := (fraction.length : Int) - (dropped : Int)
  Double.ofDecimal? significand ((skipped : Int) - places + exponentValue n.exponent)

/-- The integer that a number without point and exponent stands for, if it fits into 64 bits. A
negative zero is no integer. -/
def integer? (n : Number) : Option Int :=
  if n.fraction.isSome || n.exponent.isSome then none
  else
    let (magnitude, skipped) := absorb 0 n.whole
    if skipped != 0 then none
    else if !n.negative then some magnitude
    else if magnitude == 0 || Nat.pow 2 63 < magnitude then none
    else some (-magnitude)

def value? (n : Number) : Option NumberValue :=
  match n.integer? with
  | some i => some (.integer i)
  | none => n.double?.map (.double n.negative)

def signed (negative : Bool) (cs : List Char) : List Char :=
  if negative then '-' :: cs else cs

def render (n : Number) : List Char :=
  signed n.negative <| n.whole ++
    (match n.fraction with
      | none => []
      | some digits => '.' :: digits) ++
    (match n.exponent with
      | none => []
      | some (negative, digits) => 'e' :: signed negative digits)

/-- One or more digits without a needless zero in front, and what follows. -/
def takeWhole? (cs : List Char) : Option (List Char × List Char) :=
  match cs with
  | '0' :: rest => some (['0'], rest)
  | _ =>
    match cs.takeWhile Char.isDigit with
    | [] => none
    | digits => some (digits, cs.dropWhile Char.isDigit)

/-- One or more digits up to the end of the text or to an exponent mark. -/
def takeFraction? : List Char → Option (Option (List Char) × List Char)
  | '.' :: cs =>
    match cs.takeWhile Char.isDigit with
    | [] => none
    | digits => some (some digits, cs.dropWhile Char.isDigit)
  | cs => some (none, cs)

def takeExponentSign : List Char → Bool × List Char
  | '-' :: cs => (true, cs)
  | '+' :: cs => (false, cs)
  | cs => (false, cs)

def takeExponent? : List Char → Option (Option (Bool × List Char))
  | [] => some none
  | c :: cs =>
    if c == 'e' || c == 'E' then
      let (negative, digits) := takeExponentSign cs
      if !digits.isEmpty && digits.all Char.isDigit then some (some (negative, digits)) else none
    else none

def read? (cs : List Char) : Option Number :=
  let (negative, unsigned) := match cs with
    | '-' :: rest => (true, rest)
    | _ => (false, cs)
  match takeWhole? unsigned with
  | none => none
  | some (whole, rest) =>
    match takeFraction? rest with
    | none => none
    | some (fraction, rest) =>
      (takeExponent? rest).map fun exponent => ⟨negative, whole, fraction, exponent⟩

end Number

namespace NumberValue

def text : NumberValue → String
  | integer i => toString i
  | double negative d => String.ofList (Number.signed negative d.digits.compact)

end NumberValue

/-- The text of the value; a number without a value stays as it is written. -/
def Number.text (n : Number) : List Char :=
  match n.value? with
  | some v => v.text.toList
  | none => n.render

end InputDeck.Json
