/-!
# Double precision numbers

A finite double without its sign is `significand * 2 ^ exponent`. All arithmetic is exact arithmetic
on ratios of natural numbers, rounded once at the end: to the nearest double, and from the middle
between two of them to the one with an even significand.
-/

namespace InputDeck.Decimal

structure Double where
  significand : Nat
  exponent : Int
  deriving DecidableEq, Repr

namespace Double

/-- Doubles have 53 significant bits. -/
def precision : Nat := 53

def leastExponent : Int := -1074

def greatestExponent : Int := 971

def zero : Double := ⟨0, leastExponent⟩

def isZero (d : Double) : Bool :=
  d.significand == 0

def twoTo (n : Nat) : Nat :=
  Nat.pow 2 n

def tenTo (n : Nat) : Nat :=
  Nat.pow 10 n

def numerator (d : Double) : Nat :=
  d.significand * twoTo d.exponent.toNat

def denominator (d : Double) : Nat :=
  twoTo (-d.exponent).toNat

/-- The quotient rounded to the nearest whole number, a half to the even one. -/
def roundQuotient (num den : Nat) : Nat :=
  let q := num / den
  let r := num % den
  if den < 2 * r || (2 * r == den && q % 2 == 1) then q + 1 else q

def atLeastPower (num den : Nat) (e : Int) : Bool :=
  den * twoTo e.toNat ≤ num * twoTo (-e).toNat

/-- The greatest power of two, as an exponent, that does not exceed the ratio. -/
def floorLog (num den : Nat) : Int :=
  let e : Int := (num.log2 : Int) - (den.log2 : Int)
  if atLeastPower num den e then e else e - 1

/-- The double nearest to a ratio, unless the ratio is too large. -/
def ofRatio? (num den : Nat) : Option Double :=
  if num == 0 then some zero
  else
    let e := max (floorLog num den - (precision - 1 : Nat)) leastExponent
    let m := roundQuotient (num * twoTo (-e).toNat) (den * twoTo e.toNat)
    let d : Double := if m == twoTo precision then ⟨twoTo (precision - 1), e + 1⟩ else ⟨m, e⟩
    if greatestExponent < d.exponent then none else some d

def mul? (a b : Double) : Option Double :=
  ofRatio? (a.numerator * b.numerator) (a.denominator * b.denominator)

def div? (a b : Double) : Option Double :=
  ofRatio? (a.numerator * b.denominator) (a.denominator * b.numerator)

def greatestPower : Nat := 308

def powerOfTen (k : Nat) : Double :=
  (ofRatio? (tenTo k) 1).getD zero

/-- Divides by a power of ten, in steps of the largest one there is. Each step costs three hundred
places, so a few of them leave nothing of the number. -/
def scaleDown : Nat → Double → Nat → Option Double
  | 0, _, _ => some zero
  | steps + 1, d, places =>
    if places ≤ greatestPower then d.div? (powerOfTen places)
    else match d.div? (powerOfTen greatestPower) with
      | none => none
      | some smaller =>
        if smaller.isZero then some zero else scaleDown steps smaller (places - greatestPower)

/-- The double read for `significand * 10 ^ exponent`: the significand is rounded first, and then
multiplied or divided by the rounded power of ten. There is none if it would be too large. -/
def ofDecimal? (significand : Nat) (exponent : Int) : Option Double :=
  match ofRatio? significand 1 with
  | none => none
  | some d =>
    if d.isZero then some zero
    else if 0 ≤ exponent then
      if exponent.toNat ≤ greatestPower then d.mul? (powerOfTen exponent.toNat) else none
    else scaleDown 4 d (-exponent).toNat

end Double

end InputDeck.Decimal
