import InputDeck.Json.Basic

/-!
# Structures

A structure is written as an object of its fields, or as an array of all of them in their order. The
object leaves out a field that is not set; when it is read, null counts as missing.
-/

namespace InputDeck.Json

def halfWordLimit : Nat := Nat.pow 2 32

def unsigned? (v : Json) : Option Nat :=
  v.nat?.filter (· < halfWordLimit)

def signed? (v : Json) : Option Int :=
  v.int?.filter fun n => -2147483648 ≤ n && n < 2147483648

def list? {α : Type} (read : Json → Option α) (v : Json) : Option (List α) :=
  v.array?.bind fun items => items.mapM read

def record? (fields : List String) : Json → Option Json
  | object members => some (object members)
  | array items => if items.length = fields.length then some (object (fields.zip items)) else none
  | _ => none

def needed? {α : Type} (v : Json) (key : String) (read : Json → Option α) : Option α :=
  (v.get? key).bind read

/-- A member that may be missing, but has to be of the right kind if it is there. -/
def optional? {α : Type} (v : Json) (key : String) (read : Json → Option α) : Option (Option α) :=
  match v.get? key with
  | none => some none
  | some .null => some none
  | some member => (read member).map some

def member {α : Type} (key : String) (write : α → Json) : Option α → List (String × Json)
  | none => []
  | some a => [(key, write a)]

end InputDeck.Json
