import InputDeck.Shell.Octets

/-!
# Arithmetic

Arithmetic expressions work on whole numbers of 64 bits that wrap around. A name stands for the
number in the variable of that name.
-/

namespace InputDeck.Shell.Arithmetic

inductive Symbol where
  | number (value : Int)
  | name (text : Octets)
  | op (text : String)
  deriving DecidableEq, Repr

/-- The operators between two numbers, those that bind looser first. -/
def levels : List (List String) :=
  [["||"], ["&&"], ["==", "!="], ["<=", ">=", "<", ">"], ["+", "-"], ["*", "/", "%"]]

def symbols? : Nat → Octets → Option (List Symbol)
  | 0, _ => none
  | _ + 1, [] => some []
  | fuel + 1, c :: rest =>
    if isSpaceChar c then symbols? fuel rest
    else if c.isDigit then
      let digits := (c :: rest).takeWhile Char.isDigit
      (symbols? fuel ((c :: rest).drop digits.length)).map
        (.number (Octets.numberIn (if c == '0' then 8 else 10) digits) :: ·)
    else if isNameStart c then
      let name := (c :: rest).takeWhile isNameChar
      (symbols? fuel ((c :: rest).drop name.length)).map (.name name :: ·)
    else
      (levels.flatten ++ ["!", "(", ")"]).find? (fun op => op.toList.isPrefixOf (c :: rest)) |>.bind
        fun op => (symbols? fuel ((c :: rest).drop op.length)).map (.op op :: ·)

def wrap (n : Int) : Int :=
  Int.bmod n 18446744073709551616

def ofBool (b : Bool) : Int :=
  if b then 1 else 0

def operate? (op : String) (a b : Int) : Option Int :=
  match op with
  | "+" => some (wrap (a + b))
  | "-" => some (wrap (a - b))
  | "*" => some (wrap (a * b))
  | "/" => if b == 0 then none else some (wrap (Int.tdiv a b))
  | "%" => if b == 0 then none else some (wrap (Int.tmod a b))
  | "<" => some (ofBool (a < b))
  | "<=" => some (ofBool (a ≤ b))
  | ">" => some (ofBool (b < a))
  | ">=" => some (ofBool (b ≤ a))
  | "==" => some (ofBool (a == b))
  | "!=" => some (ofBool (a != b))
  | "&&" => some (ofBool (a != 0 && b != 0))
  | "||" => some (ofBool (a != 0 || b != 0))
  | _ => none

def number? (text : Octets) : Option Int :=
  match text with
  | '-' :: digits => (Octets.toNat? digits).map fun n => -(n : Int)
  | '+' :: digits => (Octets.toNat? digits).map fun n => (n : Int)
  | digits => (Octets.toNat? digits).map fun n => (n : Int)

mutual

def binary? (value : Octets → Octets) : Nat → List (List String) → List Symbol →
    Option (Int × List Symbol)
  | 0, _, _ => none
  | fuel + 1, [], symbols => unary? value fuel symbols
  | fuel + 1, ops :: tighter, symbols => do
    let (a, rest) ← binary? value fuel tighter symbols
    further? value fuel ops tighter a rest

def further? (value : Octets → Octets) : Nat → List String → List (List String) → Int →
    List Symbol → Option (Int × List Symbol)
  | 0, _, _, _, _ => none
  | fuel + 1, ops, tighter, a, symbols =>
    match symbols with
    | .op op :: rest =>
      if ops.contains op then do
        let (b, rest) ← binary? value fuel tighter rest
        further? value fuel ops tighter (← operate? op a b) rest
      else some (a, symbols)
    | _ => some (a, symbols)

def unary? (value : Octets → Octets) : Nat → List Symbol → Option (Int × List Symbol)
  | 0, _ => none
  | fuel + 1, symbols =>
    match symbols with
    | .number n :: rest => some (wrap n, rest)
    | .name name :: rest =>
      let text := value name
      (if text.isEmpty then some 0 else number? text).map (wrap ·, rest)
    | .op "-" :: rest => (unary? value fuel rest).map fun (n, rest) => (wrap (-n), rest)
    | .op "+" :: rest => unary? value fuel rest
    | .op "!" :: rest => (unary? value fuel rest).map fun (n, rest) => (ofBool (n == 0), rest)
    | .op "(" :: rest =>
      match binary? value fuel levels rest with
      | some (n, .op ")" :: rest) => some (n, rest)
      | _ => none
    | _ => none

end

def value? (value : Octets → Octets) (text : Octets) : Option Int := do
  let symbols ← symbols? (text.length + 1) text
  match binary? value (20 * (symbols.length + 1)) levels symbols with
  | some (n, []) => some n
  | _ => none

end InputDeck.Shell.Arithmetic
