import InputDeck.Expression
import InputDeck.Variable

/-!
# Verdicts on values

A value is checked against the options of a variable if it has any, whatever its kind; otherwise
against its kind. Quotes are dropped first.
-/

namespace InputDeck

open InputDeck.Text

/-- Why a value is refused, with what the suggestion needs. -/
inductive Fault where
  | unknownOptions (parts offered : List String)
  | unknownValue (value : String) (offered : List String)
  | notInteger (value sample : String)
  | notFloat (value sample : String)
  | notLogical (value : String)
  deriving DecidableEq, Repr

namespace Fault

def offerLimit : Nat := 10

def offer (names : List String) : String :=
  "Valid values: " ++ ", ".intercalate (names.take offerLimit) ++
    (if offerLimit < names.length then "..." else "")

def message : Fault → String
  | unknownOptions parts _ => "Invalid options: " ++ ", ".intercalate parts
  | unknownValue value _ => "Invalid value '" ++ value ++ "'"
  | notInteger value _ => "'" ++ value ++ "' is not a valid integer"
  | notFloat value _ => "'" ++ value ++ "' is not a valid float or mathematical expression"
  | notLogical value => "'" ++ value ++ "' is not a valid logical value"

def suggestion : Fault → String
  | unknownOptions _ offered => offer offered
  | unknownValue _ offered => offer offered
  | notInteger _ sample => "Expected integer value, e.g.: " ++ sample
  | notFloat _ sample =>
    "Expected float or mathematical expression, e.g.: " ++ sample ++ " or 3.5 * angstrom"
  | notLogical _ => "Valid values: true, false, yes, no"

end Fault

inductive Verdict where
  | valid
  | invalid (fault : Fault)
  deriving DecidableEq, Repr

namespace Verdict

def isValid : Verdict → Bool
  | valid => true
  | invalid _ => false

def message? : Verdict → Option String
  | valid => none
  | invalid fault => some fault.message

def suggestion? : Verdict → Option String
  | valid => none
  | invalid fault => some fault.suggestion

def fullMessage : Verdict → String
  | valid => "Invalid value"
  | invalid fault => fault.message ++ " (" ++ fault.suggestion ++ ")"

/-- Valid if the test succeeds, otherwise refused for the given reason. -/
def orFault (test : Bool) (fault : Fault) : Verdict :=
  if test then valid else invalid fault

end Verdict

namespace Value

def isQuote (c : Char) : Bool :=
  c == '\x27' || c == '\x22'

def unquoted (cs : List Char) : List Char :=
  cs.filter (!isQuote ·)

def isDigits (cs : List Char) : Bool :=
  !cs.isEmpty && cs.all Char.isDigit

def withoutMinus : List Char → List Char
  | '-' :: cs => cs
  | cs => cs

def isInteger (cs : List Char) : Bool :=
  isDigits (withoutMinus cs)

/-- What follows a mantissa: digits with an optional point and further digits, or a point and
digits. -/
def afterMantissa? (cs : List Char) : Option (List Char) :=
  let whole := cs.takeWhile Char.isDigit
  match cs.dropWhile Char.isDigit with
  | '.' :: rest =>
    if whole.isEmpty && (rest.takeWhile Char.isDigit).isEmpty then none
    else some (rest.dropWhile Char.isDigit)
  | rest => if whole.isEmpty then none else some rest

def withoutSign : List Char → List Char
  | '+' :: cs => cs
  | '-' :: cs => cs
  | cs => cs

def isExponent : List Char → Bool
  | [] => true
  | c :: cs => (c == 'e' || c == 'E') && isDigits (withoutSign cs)

def isDecimal (cs : List Char) : Bool :=
  (afterMantissa? (withoutMinus cs)).any isExponent

def logicalWords : List String :=
  ["true", "false", "yes", "no", ".true.", ".false.", "1", "0"]

/-- The parts of a sum of options, in lower case and without blanks around them. -/
def optionParts (cs : List Char) : List String :=
  (splitAtEach '+' cs).map fun part => String.ofList (lowercase (trim part))

end Value

namespace Variable

/-- The option of a variable that a part in lower case names, by its name or its value. -/
def knowsOption (v : Variable) (part : String) : Bool :=
  v.options.any fun o => lowercased o.name == part || lowercased o.value == part

/-- The verdict on unquoted text for a variable with options. -/
def optionVerdict (v : Variable) (text : List Char) : Verdict :=
  let unknown := (Value.optionParts text).filter (!v.knowsOption ·)
  Verdict.orFault unknown.isEmpty <|
    if text.contains '+' then .unknownOptions unknown v.optionNames
    else .unknownValue (String.ofList text) v.optionNames

/-- The verdict on unquoted text for a variable without options. -/
def kindVerdict (v : Variable) (text : List Char) : Verdict :=
  let value := String.ofList text
  match v.kind with
  | .integer =>
    Verdict.orFault (Value.isInteger text) (.notInteger value (v.firstDefault?.getD "1"))
  | .float =>
    Verdict.orFault (Expression.looksComputed value || Value.isDecimal text)
      (.notFloat value (v.firstDefault?.getD "1.0"))
  | .logical =>
    Verdict.orFault (Value.logicalWords.contains (lowercased value)) (.notLogical value)
  | _ => .valid

def verdict (v : Variable) (raw : String) : Verdict :=
  let text := Value.unquoted raw.toList
  if v.options.isEmpty then v.kindVerdict text else v.optionVerdict text

end Variable

end InputDeck
