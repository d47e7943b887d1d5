import InputDeck.Decimal.Double

/-!
# Shortest decimal text of a double

A double is written with the fewest digits that are nearer to it than to any other double. The
digits are found by trying one, two, up to seventeen of them: on each decimal grid only the two
neighbours of the value matter. Of two that are near enough the nearer one is taken, and of two that
are equally near the even one.
-/

namespace InputDeck.Decimal

structure Digits where
  digits : List Char
  exponent : Int
  deriving DecidableEq, Repr

namespace Double

def floorLogTen (num den : Nat) : Int :=
  let guess : Int := ((Nat.toDigits 10 num).length : Int) - ((Nat.toDigits 10 den).length : Int)
  if den * tenTo guess.toNat ≤ num * tenTo (-guess).toNat then guess else guess - 1

def roundsTo (d : Double) (num den : Nat) : Bool :=
  ofRatio? num den == some d

/-- The digits of `n`, of which the first stands for `10 ^ exponent` after a carry is allowed
for. -/
def digitsOf (n count : Nat) (exponent : Int) : Digits :=
  let text := Nat.toDigits 10 n
  let carry : Int := (text.length : Int) - (count : Int)
  ⟨(text.reverse.dropWhile (· == '0')).reverse, exponent + carry⟩

/-- The nearest decimal of `count` digits, if it reads back as the double. -/
def digitsWith? (d : Double) (count : Nat) : Option Digits :=
  let exponent := floorLogTen d.numerator d.denominator
  let grid : Int := exponent - (count : Int) + 1
  let up := tenTo grid.toNat
  let down := tenTo (-grid).toNat
  let num := d.numerator * down
  let den := d.denominator * up
  let below := num / den
  let above := below + 1
  let reads (n : Nat) : Bool := d.roundsTo (n * up) down
  let rest := 2 * (num % den)
  let nearBelow := rest < den || (rest == den && below % 2 == 0)
  if nearBelow && reads below then some (digitsOf below count exponent)
  else if reads above then some (digitsOf above count exponent)
  else if reads below then some (digitsOf below count exponent)
  else none

/-- The shortest digits that read back as the double, which is not zero. -/
def shortest (d : Double) : Digits :=
  ((List.range 17).findSome? fun n => d.digitsWith? (n + 1)).getD ⟨['0'], 0⟩

end Double

namespace Digits

def positional (d : Digits) : List Char :=
  if d.exponent < 0 then
    '0' :: '.' :: (List.replicate ((-d.exponent).toNat - 1) '0' ++ d.digits)
  else
    let places := d.exponent.toNat + 1
    let whole := d.digits.take places
    let fraction := d.digits.drop places
    whole ++ List.replicate (places - whole.length) '0' ++
      '.' :: (if fraction.isEmpty then ['0'] else fraction)

def scientific (d : Digits) : List Char :=
  let mantissa := match d.digits with
    | first :: second :: rest => first :: '.' :: second :: rest
    | digits => digits
  mantissa ++ 'e' :: (if d.exponent < 0 then '-' else '+') :: Nat.toDigits 10 d.exponent.natAbs

/-- Positional notation for exponents from -5 to 15, scientific notation for all others. -/
def compact (d : Digits) : List Char :=
  if -5 ≤ d.exponent && d.exponent ≤ 15 then d.positional else d.scientific

end Digits

namespace Double

def digits (d : Double) : Digits :=
  if d.isZero then ⟨['0'], 0⟩ else d.shortest

end Double

end InputDeck.Decimal
