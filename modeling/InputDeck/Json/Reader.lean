import InputDeck.Json.Basic
import InputDeck.Text.Hex

/-!
# Reading JSON

The reader takes one character at a time. Its state is the phase, which says what part of a value
may come next and which containers are open, together with the lexeme that is being read. Texts are
strict: blanks are the four that JSON has, nothing may follow the value, and a comma needs a value
after it. There is no limit on nesting.
-/

namespace InputDeck.Json

open InputDeck.Text

/-- A key or string as written: no text if a surrogate in it stands alone. -/
abbrev Written := Option String

/-- A container that is still open, with what it holds so far in reverse order. -/
inductive Frame where
  | items (done : List Json)
  | members (done : List (Written × Json)) (key : Written)

inductive Phase where
  /-- A value. -/
  | value (frames : List Frame)
  /-- A value or the end of an array that was just opened. -/
  | item (frames : List Frame)
  /-- A key; the end of the object as well if it was just opened. -/
  | member (opened : Bool) (done : List (Written × Json)) (frames : List Frame)
  /-- The colon after a key. -/
  | colon (done : List (Written × Json)) (key : Written) (frames : List Frame)
  /-- What follows a complete value. -/
  | complete (value : Json) (frames : List Frame)

inductive Token where
  | openArray
  | closeArray
  | openObject
  | closeObject
  | comma
  | colon
  | text (written : Written)
  | scalar (value : Json)

def closeObject (done : List (Written × Json)) : Json :=
  match done.reverse.mapM fun (key, value) => key.map (·, value) with
  | some members => object members
  | none => unpaired

def ofWritten : Written → Json
  | some s => string s
  | none => unpaired

namespace Phase

def beginValue (frames : List Frame) : Token → Option Phase
  | .openArray => some (item frames)
  | .openObject => some (member true [] frames)
  | .text written => some (complete (ofWritten written) frames)
  | .scalar v => some (complete v frames)
  | _ => none

def step : Phase → Token → Option Phase
  | value frames, token => beginValue frames token
  | item frames, .closeArray => some (complete (array []) frames)
  | item frames, token => beginValue (.items [] :: frames) token
  | member _ done frames, .text key => some (.colon done key frames)
  | member true _ frames, .closeObject => some (complete (object []) frames)
  | .colon done key frames, .colon => some (value (.members done key :: frames))
  | complete v (.items done :: frames), .comma => some (value (.items (v :: done) :: frames))
  | complete v (.items done :: frames), .closeArray =>
    some (complete (array (v :: done).reverse) frames)
  | complete v (.members done key :: frames), .comma =>
    some (member false ((key, v) :: done) frames)
  | complete v (.members done key :: frames), .closeObject =>
    some (complete (Json.closeObject ((key, v) :: done)) frames)
  | _, _ => none

end Phase

inductive Piece where
  | char (c : Char)
  | unit (n : Nat)
  deriving DecidableEq, Repr

def isHighSurrogate (n : Nat) : Bool :=
  0xd800 ≤ n && n < 0xdc00

def isLowSurrogate (n : Nat) : Bool :=
  0xdc00 ≤ n && n < 0xe000

/-- The text of a list of pieces; two surrogates in a row make one character. -/
def joinPieces : List Piece → Option (List Char)
  | [] => some []
  | .char c :: rest => (joinPieces rest).map (c :: ·)
  | [.unit n] => if isHighSurrogate n || isLowSurrogate n then none else some [Char.ofNat n]
  | .unit n :: .unit m :: rest =>
    if isHighSurrogate n then
      if isLowSurrogate m then
        (joinPieces rest).map (Char.ofNat (0x10000 + (n - 0xd800) * 0x400 + (m - 0xdc00)) :: ·)
      else none
    else if isLowSurrogate n then none
    else (joinPieces (.unit m :: rest)).map (Char.ofNat n :: ·)
  | .unit n :: .char c :: rest =>
    if isHighSurrogate n || isLowSurrogate n then none
    else (joinPieces (.char c :: rest)).map (Char.ofNat n :: ·)

inductive Lexeme where
  | between
  /-- A number or one of the three words. -/
  | bare (cs : List Char)
  | quoted (pieces : List Piece)
  /-- After a backslash. -/
  | escaped (pieces : List Piece)
  /-- After `\u`: how many hexadecimal digits are missing, and the value of those read. -/
  | hexadecimal (pieces : List Piece) (missing value : Nat)

structure State where
  lexeme : Lexeme
  phase : Phase

def isJsonBlank (c : Char) : Bool :=
  c == ' ' || c == '\n' || c == '\t' || c == '\r'

def punctuation? : Char → Option Token
  | '[' => some .openArray
  | ']' => some .closeArray
  | '{' => some .openObject
  | '}' => some .closeObject
  | ',' => some .comma
  | ':' => some .colon
  | _ => none

def bareValue? (cs : List Char) : Option Json :=
  if cs == "null".toList then some null
  else if cs == "true".toList then some (bool true)
  else if cs == "false".toList then some (bool false)
  else (Number.read? cs).map number

def simpleEscape? : Char → Option Char
  | '"' => some '"'
  | '\\' => some '\\'
  | '/' => some '/'
  | 'b' => some '\x08'
  | 'f' => some '\x0c'
  | 'n' => some '\n'
  | 'r' => some '\r'
  | 't' => some '\t'
  | _ => none

def stepBetween (phase : Phase) (c : Char) : Option State :=
  if isJsonBlank c then some ⟨.between, phase⟩
  else if c == '"' then some ⟨.quoted [], phase⟩
  else match punctuation? c with
    | some token => (phase.step token).map fun phase => ⟨.between, phase⟩
    | none => some ⟨.bare [c], phase⟩

def finishBare (phase : Phase) (cs : List Char) : Option Phase :=
  (bareValue? cs.reverse).bind fun v => phase.step (.scalar v)

def endsBare (c : Char) : Bool :=
  isJsonBlank c || c == '"' || (punctuation? c).isSome

def step (s : State) (c : Char) : Option State :=
  match s.lexeme with
  | .between => stepBetween s.phase c
  | .bare cs =>
    if endsBare c then (finishBare s.phase cs).bind (stepBetween · c)
    else some { s with lexeme := .bare (c :: cs) }
  | .quoted pieces =>
    if c == '"' then
      (s.phase.step (.text ((joinPieces pieces.reverse).map String.ofList))).map (⟨.between, ·⟩)
    else if c == '\\' then some { s with lexeme := .escaped pieces }
    else if c.toNat < 0x20 then none
    else some { s with lexeme := .quoted (.char c :: pieces) }
  | .escaped pieces =>
    if c == 'u' then some { s with lexeme := .hexadecimal pieces 4 0 }
    else (simpleEscape? c).map fun d => { s with lexeme := .quoted (.char d :: pieces) }
  | .hexadecimal pieces missing value =>
    (hexValue? c).map fun d =>
      let value := value * 16 + d
      if missing ≤ 1 then { s with lexeme := .quoted (.unit value :: pieces) }
      else { s with lexeme := .hexadecimal pieces (missing - 1) value }

def finish (s : State) : Option Json :=
  let phase? := match s.lexeme with
    | .between => some s.phase
    | .bare cs => finishBare s.phase cs
    | _ => none
  match phase? with
  | some (.complete v []) => some v
  | _ => none

def read? (text : String) : Option Json :=
  (text.toList.foldlM step ⟨.between, .value []⟩).bind finish

end InputDeck.Json
