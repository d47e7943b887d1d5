import InputDeck.Host.Basic
import InputDeck.Shell.Arithmetic
import InputDeck.Shell.Pattern

/-!
# What commands print

Texts with backslash escapes, formats whose directives take one argument each, conditions, and the
programs that turn one text into another.
-/

namespace InputDeck.Shell

/-! ## Escapes and formats -/

def letterEscape? : Char → Option Char
  | 'a' => some '\x07'
  | 'b' => some '\x08'
  | 'f' => some '\x0c'
  | 'n' => some '\n'
  | 'r' => some '\r'
  | 't' => some '\t'
  | 'v' => some '\x0b'
  | '\\' => some '\\'
  | _ => none

def isOctalDigit (c : Char) : Bool :=
  '0' ≤ c && c ≤ '7'

def escapeAt? (allowsZero : Bool) : Octets → Option (Char × Octets)
  | [] => none
  | c :: more =>
    match letterEscape? c with
    | some d => some (d, more)
    | none =>
      let written := if c == '0' && allowsZero then more else c :: more
      let digits := (written.take 3).takeWhile isOctalDigit
      if isOctalDigit c then
        some (Char.ofNat (Octets.numberIn 8 digits % 256), written.drop digits.length)
      else none

def unescape : Nat → Octets → Octets × Bool
  | 0, text => (text, false)
  | _ + 1, [] => ([], false)
  | _ + 1, '\\' :: 'c' :: _ => ([], true)
  | fuel + 1, c :: rest =>
    let (first, rest) := ((if c == '\\' then escapeAt? true rest else none).getD (c, rest))
    let (more, stops) := unescape fuel rest
    (first :: more, stops)

def unescaped (text : Octets) : Octets × Bool :=
  unescape (text.length + 1) text

/-- What `echo` prints; as a program of its own it leaves escapes alone. -/
def echo (isProgram : Bool) (arguments : List Octets) : Octets :=
  let (words, ending) : List Octets × Octets := match arguments with
    | ['-', 'n'] :: rest => (rest, [])
    | _ => (arguments, ['\n'])
  let joined := [' '].intercalate words
  let (text, stops) := if isProgram then (joined, false) else unescaped joined
  if stops then text else text ++ ending

structure Directive where
  flags : Octets
  width : Nat
  precision : Option Nat
  kind : Char

namespace Directive

def read? (rest : Octets) : Option (Directive × Octets) :=
  let flags := rest.takeWhile "-0".toList.contains
  let rest := rest.drop flags.length
  let width := rest.takeWhile Char.isDigit
  let rest := rest.drop width.length
  let (precision, rest) : Option Nat × Octets := match rest with
    | '.' :: more =>
      (some (Octets.numberIn 10 (more.takeWhile Char.isDigit)), more.dropWhile Char.isDigit)
    | _ => (none, rest)
  rest.head?.map fun kind => (⟨flags, Octets.numberIn 10 width, precision, kind⟩, rest.drop 1)

def fill (d : Directive) (sign body : Octets) : Octets :=
  let missing := d.width - (sign.length + body.length)
  if d.flags.contains '-' then sign ++ body ++ List.replicate missing ' '
  else if d.flags.contains '0' && "diuoxX".toList.contains d.kind then
    sign ++ List.replicate missing '0' ++ body
  else List.replicate missing ' ' ++ sign ++ body

def print? (d : Directive) (argument : Octets) : Option (Octets × Bool) :=
  let cut (text : Octets) : Octets := (d.precision.map text.take).getD text
  let n := (Arithmetic.number? argument).getD 0
  match d.kind with
  | 's' => some (d.fill [] (cut argument), false)
  | 'b' => let (text, stops) := unescaped argument; some (d.fill [] (cut text), stops)
  | 'c' => some (d.fill [] (argument.take 1), false)
  | 'o' => some (d.fill [] (Nat.toDigits 8 n.toNat), false)
  | 'x' => some (d.fill [] (Nat.toDigits 16 n.toNat), false)
  | 'X' => some (d.fill [] ((Nat.toDigits 16 n.toNat).map Char.toUpper), false)
  | k =>
    if k == 'd' || k == 'i' || k == 'u' then
      some (d.fill (if n < 0 then ['-'] else []) (Nat.toDigits 10 n.natAbs), false)
    else none

end Directive

/-- One pass over a format: what is printed, the arguments left, and whether all printing ends. -/
def printPass : Nat → Octets → List Octets → Octets × List Octets × Bool
  | 0, _, arguments => ([], arguments, true)
  | _ + 1, [], arguments => ([], arguments, false)
  | fuel + 1, '%' :: '%' :: rest, arguments =>
    let (text, after) := printPass fuel rest arguments
    ('%' :: text, after)
  | fuel + 1, '%' :: rest, arguments =>
    match Directive.read? rest with
    | none => ([], arguments, true)
    | some (d, rest) =>
      match d.print? (arguments.headD []) with
      | none => ([], arguments, true)
      | some (text, true) => (text, [], true)
      | some (text, false) =>
        let (more, after) := printPass fuel rest (arguments.drop 1)
        (text ++ more, after)
  | fuel + 1, c :: rest, arguments =>
    let (first, rest) := ((if c == '\\' then escapeAt? false rest else none).getD (c, rest))
    let (text, after) := printPass fuel rest arguments
    (first :: text, after)

def printFormat (format : Octets) : Nat → List Octets → Octets
  | 0, _ => []
  | fuel + 1, arguments =>
    let (text, left, stops) := printPass (format.length + 1) format arguments
    if stops || left.isEmpty || left.length == arguments.length then text
    else text ++ printFormat format fuel left

/-! ## Conditions -/

def compareNumbers? (op : String) (a b : Octets) : Option Bool := do
  let m ← Arithmetic.number? a
  let n ← Arithmetic.number? b
  match op with
  | "-eq" => some (m == n)
  | "-ne" => some (m != n)
  | "-ge" => some (n ≤ m)
  | "-gt" => some (n < m)
  | "-le" => some (m ≤ n)
  | "-lt" => some (m < n)
  | _ => none

def ask? (h : Host) (op : String) (word : Octets) : Option Bool :=
  let p : Path := ⟨word.toText⟩
  match op with
  | "-n" => some (!word.isEmpty)
  | "-z" => some word.isEmpty
  | "-f" => some (h.isFile p)
  | "-d" => some (h.isFolder p)
  | "-s" => some (match h.entry p with
    | .ok (.file content _) => content ≠ .text "" && content ≠ .bytes []
    | other => other.isOk)
  | "-x" => some (match h.entry p with
    | .ok (.file _ executable) => executable
    | other => other.isOk)
  | _ => if ["-e", "-r", "-w"].contains op then some (h.holds p) else none

def condition? (h : Host) : Nat → List Octets → Option Bool
  | 0, _ => none
  | fuel + 1, words =>
    match words with
    | [] => some false
    | [word] => some (!word.isEmpty)
    | [['!'], word] => some word.isEmpty
    | [op, word] => ask? h (String.ofList op) word
    | [a, op, b] =>
      match String.ofList op with
      | "=" => some (a == b)
      | "!=" => some (a != b)
      | "-a" => some (!a.isEmpty && !b.isEmpty)
      | "-o" => some (!a.isEmpty || !b.isEmpty)
      | op => (compareNumbers? op a b).or
        (if a == ['!'] then (condition? h fuel (words.drop 1)).map (!·) else none)
    | first :: rest =>
      let either := words.findIdx (· == "-o".toList)
      let both := words.findIdx (· == "-a".toList)
      if either < words.length then do
        return (← condition? h fuel (words.take either)) ||
          (← condition? h fuel (words.drop (either + 1)))
      else if both < words.length then do
        return (← condition? h fuel (words.take both)) &&
          (← condition? h fuel (words.drop (both + 1)))
      else if first == ['!'] then (condition? h fuel rest).map (!·)
      else none

def conditionStatus (h : Host) (isBracketed : Bool) (words : List Octets) : Nat :=
  if isBracketed && words.getLast? != some [']'] then 2
  else
    let words := if isBracketed then words.dropLast else words
    match condition? h (words.length + 1) words with
    | some true => 0
    | some false => 1
    | none => 2

/-! ## Filters -/

/-- A program that turns a text into another one and a status. The text is that of some files, or
its input if there are none. -/
structure Filter where
  files : List Octets
  apply : Octets → Octets × Nat

namespace Filter

def byLines (f : List Octets → List Octets) (text : Octets) : Octets × Nat :=
  (Octets.unlines (f (Octets.lines text)), 0)

def matchesIn (r : Regular) : Nat → Bool → Octets → List Octets
  | 0, _, _ => []
  | fuel + 1, isStart, line =>
    match r.find? isStart line with
    | none => []
    | some (_, rest, groups) =>
      match (groups.lookup 0).getD [], rest with
      | [], [] => []
      | [], _ :: rest => matchesIn r fuel false rest
      | found, rest => found :: matchesIn r fuel false rest

def grep (letters : Octets) (r : Regular) (text : Octets) : Octets × Nat :=
  let fits (line : Octets) : Bool := (r.find? true line).isSome != letters.contains 'v'
  let found := (Octets.lines text).filter fits
  let shown := if letters.contains 'q' then []
    else if letters.contains 'o' then
      found.flatMap fun line => matchesIn r (line.length + 1) true line
    else found
  (Octets.unlines shown, if found.isEmpty then 1 else 0)

def filled (groups : Regular.Groups) : Octets → Octets
  | '\\' :: c :: rest =>
    (if c.isDigit then (groups.lookup (c.toNat - '0'.toNat)).getD [] else if c == 'n' then ['\n']
      else [c]) ++ filled groups rest
  | '&' :: rest => (groups.lookup 0).getD [] ++ filled groups rest
  | c :: rest => c :: filled groups rest
  | [] => []

def substitute (r : Regular) (new : Octets) (isGlobal : Bool) : Nat → Bool → Octets → Octets
  | 0, _, line => line
  | fuel + 1, isStart, line =>
    match r.find? isStart line with
    | none => line
    | some (before, rest, groups) =>
      let kept := before ++ filled groups new
      if !isGlobal then kept ++ rest
      else if rest.length < line.length then kept ++ substitute r new isGlobal fuel false rest
      else kept ++ rest.take 1 ++ substitute r new isGlobal fuel false (rest.drop 1)

def delimited (separator : Char) : Octets → List Octets
  | '\\' :: c :: rest =>
    match delimited separator rest with
    | part :: parts => ((if c == separator then [c] else ['\\', c]) ++ part) :: parts
    | [] => [['\\', c]]
  | c :: rest =>
    match c == separator, delimited separator rest with
    | false, part :: parts => (c :: part) :: parts
    | _, parts => [] :: parts
  | [] => [[]]

/-- The one command of an editing script: a substitution. -/
def editing? (script : Octets) (isQuiet : Bool) : Option (Octets → Octets × Nat) :=
  match script with
  | 's' :: separator :: rest =>
    match delimited separator rest with
    | [old, new, flags] => some (byLines fun lines => lines.flatMap fun line =>
      let r := Regular.ofText old
      let edited := substitute r new (flags.contains 'g') (line.length + 1) true line
      let isPrinted := flags.contains 'p' && (r.find? true line).isSome
      (if isQuiet then [] else [edited]) ++ (if isPrinted then [edited] else []))
    | _ => none
  | _ => none

def ofProgram? (name : String) (arguments : List Octets) : Option Filter :=
  match name, arguments with
  | "cat", files => some ⟨files, fun text => (text, 0)⟩
  | "head", ['-', 'n'] :: n :: files => (Octets.toNat? n).map fun n => ⟨files, byLines (·.take n)⟩
  | "head", ('-' :: n) :: files => (Octets.toNat? n).map fun n => ⟨files, byLines (·.take n)⟩
  | "head", files => some ⟨files, byLines (·.take 10)⟩
  | "grep", ('-' :: letters) :: pattern :: files =>
    if letters.all "qvo".toList.contains then
      some ⟨files, grep letters (Regular.ofText pattern)⟩
    else none
  | "grep", pattern :: files => some ⟨files, grep [] (Regular.ofText pattern)⟩
  | "sed", ['-', 'n'] :: script :: files => (editing? script true).map (⟨files, ·⟩)
  | "sed", ['-', 'e'] :: script :: files => (editing? script false).map (⟨files, ·⟩)
  | "sed", script :: files => (editing? script false).map (⟨files, ·⟩)
  | _, _ => none

end Filter

end InputDeck.Shell
