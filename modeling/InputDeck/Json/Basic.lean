import InputDeck.Json.Number

/-!
# JSON values

Members of an object keep their order, and a key may occur more than once: whoever reads the object
decides what that means.
-/

namespace InputDeck

inductive Json where
  | null
  | bool (value : Bool)
  | number (value : Json.Number)
  | string (value : String)
  | array (items : List Json)
  | object (members : List (String × Json))
  /-- Well-formed text that stands for no value: a string with an unpaired surrogate, or an object
  with such a key. It may only stand where nobody looks. -/
  | unpaired
  deriving Inhabited

namespace Json

def ofNat (n : Nat) : Json :=
  number (Number.ofNat n)

def ofInt (n : Int) : Json :=
  number (Number.ofInt n)

def strings (items : List String) : Json :=
  array (items.map string)

def orNull {α : Type} (f : α → Json) : Option α → Json
  | none => null
  | some a => f a

/-- The member of an object with the given key. Of several the last one counts. -/
def get? (key : String) : Json → Option Json
  | object members => members.reverse.lookup key
  | _ => none

def string? : Json → Option String
  | string s => some s
  | _ => none

def bool? : Json → Option Bool
  | bool b => some b
  | _ => none

def array? : Json → Option (List Json)
  | array items => some items
  | _ => none

def object? : Json → Option (List (String × Json))
  | object members => some members
  | _ => none

def nat? : Json → Option Nat
  | number n =>
    match n.integer? with
    | some (.ofNat k) => some k
    | _ => none
  | _ => none

def int? : Json → Option Int
  | number n => n.integer?
  | _ => none

end Json

end InputDeck
