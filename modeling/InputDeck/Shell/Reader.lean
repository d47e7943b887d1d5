import InputDeck.Shell.Script

/-!
# Reading scripts

A script is read one line of commands at a time, since what a line does comes before the next one is
looked at. A text that is given to a command in place of a file follows the line that asks for it,
so such texts are collected by number when that line ends.
-/

namespace InputDeck.Shell

inductive Token where
  | word (pieces : Word)
  | operator (text : String)
  | redirect (descriptor : Option Nat) (text : String)
  | newline
  | finish

structure Awaited where
  number : Nat
  delimiter : Octets
  dropsTabs : Bool
  isLiteral : Bool

/-- What is left of a script, and the texts that were found in it. -/
structure Source where
  rest : Octets
  ahead : Option Token
  awaited : List Awaited
  documents : Array Word

abbrev Parse := StateT Source Option

inductive Context where
  | word
  | double
  | braces (inDouble : Bool)
  | arithmetic (depth : Nat)
  | document
  deriving DecidableEq, Repr

namespace Context

def isQuoting : Context → Bool
  | word => false
  | braces inDouble => inDouble
  | _ => true

def stops (c : Char) (rest : Octets) : Context → Bool
  | word => " \t\n;&|<>()".toList.contains c
  | double => c == '"'
  | braces _ => c == '\x7d'
  | arithmetic depth => depth == 0 && c == ')' && rest.head? == some ')'
  | document => false

def isEscapable (c : Char) : Context → Bool
  | word => true
  | double => "$\x60\"\\".toList.contains c
  | braces inDouble => !inDouble || "$\x60\"\\\x7d".toList.contains c
  | _ => "$\x60\\".toList.contains c

end Context

def consPlain (c : Char) : Word → Word
  | .plain text :: rest => .plain (c :: text) :: rest
  | pieces => .plain [c] :: pieces

def skipBlanks : Octets → Octets
  | ' ' :: rest => skipBlanks rest
  | '\t' :: rest => skipBlanks rest
  | '\\' :: '\n' :: rest => skipBlanks rest
  | '#' :: rest => rest.dropWhile (· != '\n')
  | rest => rest

/-- The text up to the closing backquote, in which a backslash before certain characters is
dropped. -/
def backquoted? (inDouble : Bool) : Octets → Option (Octets × Octets)
  | [] => none
  | '\x60' :: rest => some ([], rest)
  | '\\' :: c :: rest =>
    let dropped := c == '\x60' || c == '\\' || c == '$' || (inDouble && c == '"')
    (backquoted? inDouble rest).map fun (text, rest) =>
      (if dropped then c :: text else '\\' :: c :: text, rest)
  | c :: rest => (backquoted? inDouble rest).map fun (text, rest) => (c :: text, rest)

def operators : List String :=
  ["<<-", "<<", "<&", "<", ">>", ">&", ">", "&&", "&", "||", "|", ";;", ";", "(", ")"]

def operatorAt? (rest : Octets) : Option String :=
  operators.find? fun op => op.toList.isPrefixOf rest

def isRedirecting (op : String) : Bool :=
  op.toList.any fun c => c == '<' || c == '>'

def closingWords : List String :=
  ["\x7d", "do", "done", "elif", "else", "esac", "fi", "then"]

namespace Token

def bare? : Token → Option String
  | word pieces => pieces.bare?.map String.ofList
  | _ => none

def isWord (t : Token) (text : String) : Bool :=
  t.bare? == some text

def isOperator : Token → String → Bool
  | operator text, other => text == other
  | _, _ => false

def isNewline : Token → Bool
  | newline => true
  | _ => false

def endsList : Token → Bool
  | finish => true
  | operator text => text == ")" || text == ";;"
  | t => t.bare?.any closingWords.contains

end Token

def documentLines (a : Awaited) : List Octets → List Octets × List Octets
  | [] => ([], [])
  | line :: more =>
    let line := if a.dropsTabs then line.dropWhile (· == '\t') else line
    if line == a.delimiter then ([], more)
    else
      let (text, more) := documentLines a more
      (line :: text, more)

def delimiterOf : Word → Octets × Bool
  | [] => ([], false)
  | .plain text :: rest => let (more, isQuoted) := delimiterOf rest; (text ++ more, isQuoted)
  | .quoted text :: rest => (text ++ (delimiterOf rest).1, true)
  | .double [.plain text] :: rest => (text ++ (delimiterOf rest).1, true)
  | _ :: rest => delimiterOf rest

def setRest (rest : Octets) : Parse Unit :=
  modify ({ · with rest })

def getRest : Parse Octets :=
  return (← get).rest

def take (text : String) : Parse Unit := do
  let rest ← getRest
  if text.toList.isPrefixOf rest then setRest (rest.drop text.length) else failure

/-- The name of a parameter at the start of a text; `isLong` takes all digits of a number. -/
def parameterName (isLong : Bool) : Octets → Octets
  | [] => []
  | c :: rest =>
    if isNameStart c then (c :: rest).takeWhile isNameChar
    else if c.isDigit then (if isLong then (c :: rest).takeWhile Char.isDigit else [c])
    else if "!#$*-?@".toList.contains c then [c]
    else []

def useAt? : Octets → Option (Nat × (Word → Use))
  | ':' :: c :: _ => (instead? c).map fun how => (2, .instead how true)
  | '%' :: '%' :: _ => some (2, .trim true true)
  | '%' :: _ => some (1, .trim true false)
  | '#' :: '#' :: _ => some (2, .trim false true)
  | '#' :: _ => some (1, .trim false false)
  | c :: _ => (instead? c).map fun how => (1, .instead how false)
  | [] => none
where
  instead? : Char → Option Instead
    | '-' => some .fallback
    | '=' => some .assignment
    | '?' => some .complaint
    | '+' => some .alternative
    | _ => none

mutual

def readPieces : Nat → Context → Parse Word
  | 0, _ => failure
  | fuel + 1, context => do
    match ← getRest with
    | [] => if context = .word || context = .document then return [] else failure
    | '\\' :: '\n' :: rest => setRest rest; readPieces fuel context
    | c :: rest =>
      if context.stops c rest then return []
      else
        setRest rest
        let further (p : Piece) : Parse Word := do return p :: (← readPieces fuel context)
        match c with
        | '\\' =>
          setRest (rest.drop 1)
          match rest with
          | [] => further (.quoted ['\\'])
          | d :: _ => further (.quoted (if context.isEscapable d then [d] else ['\\', d]))
        | '$' => further (← readDollar fuel context)
        | '\x60' =>
          let (text, rest) ← backquoted? context.isQuoting rest
          setRest rest
          further (.output (← readWhole fuel text))
        | '"' =>
          match context with
          | .document => return consPlain c (← readPieces fuel context)
          | .arithmetic _ => return consPlain c (← readPieces fuel context)
          | _ =>
            let inner ← readPieces fuel .double
            take "\""
            further (.double inner)
        | '\x27' =>
          if context.isQuoting then return consPlain c (← readPieces fuel context)
          else
            let text := rest.takeWhile (· != '\x27')
            setRest (rest.drop text.length)
            take "\x27"
            further (.quoted text)
        | _ =>
          let next : Context := match context with
            | .arithmetic depth =>
              .arithmetic (if c == '(' then depth + 1 else if c == ')' then depth - 1 else depth)
            | other => other
          return consPlain c (← readPieces fuel next)

def readDollar : Nat → Context → Parse Piece
  | 0, _ => failure
  | fuel + 1, context => do
    match ← getRest with
    | '(' :: '(' :: rest =>
      setRest rest
      let inner ← readPieces fuel (.arithmetic 0)
      take "))"
      return .arithmetic inner
    | '(' :: rest =>
      setRest rest
      let body ← readList fuel
      if (← readToken fuel).isOperator ")" then return .output body else failure
    | '\x7b' :: rest =>
      setRest rest
      readBraces fuel context.isQuoting
    | rest =>
      let name := parameterName false rest
      setRest (rest.drop name.length)
      return if name.isEmpty then .plain ['$'] else .parameter name .value

def readBraces : Nat → Bool → Parse Piece
  | 0, _ => failure
  | fuel + 1, inDouble => do
    let rest ← getRest
    let measured := parameterName true (rest.drop 1)
    if rest.head? == some '#' && !measured.isEmpty &&
        rest[measured.length + 1]? == some '\x7d' then
      setRest (rest.drop (measured.length + 2))
      return .parameter measured .length
    else
      let name := parameterName true rest
      let rest := rest.drop name.length
      if name.isEmpty then failure
      else if rest.head? == some '\x7d' then
        setRest (rest.drop 1)
        return .parameter name .value
      else
        let (size, use) ← useAt? rest
        setRest (rest.drop size)
        let isPattern := match use [] with
          | .trim _ _ _ => true
          | _ => false
        let word ← readPieces fuel (.braces (inDouble && !isPattern))
        take "\x7d"
        return .parameter name (use word)

def readWhole : Nat → Octets → Parse (List Command)
  | 0, _ => failure
  | fuel + 1, text => do
    let outer ← get
    set { outer with rest := text, ahead := none, awaited := [] }
    let body ← readList fuel
    match ← readToken fuel with
    | .finish =>
      modify fun s => { outer with documents := s.documents }
      return body
    | _ => failure

def readToken : Nat → Parse Token
  | 0 => failure
  | fuel + 1 => do
    if let some t := (← get).ahead then
      modify ({ · with ahead := none })
      return t
    let rest := skipBlanks (← getRest)
    setRest rest
    match rest with
    | [] => readDocuments fuel; return .finish
    | '\n' :: rest =>
      setRest rest
      readDocuments fuel
      return .newline
    | c :: more =>
      match operatorAt? rest, operatorAt? more with
      | some op, _ =>
        setRest (rest.drop op.length)
        return if isRedirecting op then .redirect none op else .operator op
      | none, some op =>
        if c.isDigit && isRedirecting op then
          setRest (more.drop op.length)
          return .redirect (some (c.toNat - '0'.toNat)) op
        else return .word (← readPieces fuel .word)
      | none, none => return .word (← readPieces fuel .word)

def peekToken : Nat → Parse Token
  | 0 => failure
  | fuel + 1 => do
    let t ← readToken fuel
    modify ({ · with ahead := some t })
    return t

def readDocuments : Nat → Parse Unit
  | 0 => failure
  | fuel + 1 => do
    match (← get).awaited with
    | [] => return ()
    | a :: more =>
      let (text, rest) := documentLines a (Octets.lines (← getRest))
      modify ({ · with rest := Octets.unlines text, awaited := [] })
      let body : Word ← if a.isLiteral then pure [Piece.quoted (Octets.unlines text)]
        else readPieces fuel .document
      modify fun s =>
        { s with
          rest := Octets.unlines rest
          awaited := more
          documents := s.documents.setIfInBounds a.number body }
      readDocuments fuel

def skipNewlines : Nat → Parse Unit
  | 0 => failure
  | fuel + 1 => do
    if (← peekToken fuel).isNewline then
      let _ ← readToken fuel
      skipNewlines fuel

def expectWord : Nat → String → Parse Unit
  | 0, _ => failure
  | fuel + 1, text => do
    if !(← readToken fuel).isWord text then failure

def readList : Nat → Parse (List Command)
  | 0 => failure
  | fuel + 1 => do
    skipNewlines fuel
    if (← peekToken fuel).endsList then return []
    else
      let first ← readPipeline fuel
      let c ← readChain fuel first
      match ← peekToken fuel with
      | .operator "&" =>
        let _ ← readToken fuel
        return .background c :: (← readList fuel)
      | .operator ";" =>
        let _ ← readToken fuel
        return c :: (← readList fuel)
      | .newline => return c :: (← readList fuel)
      | _ => return [c]

def readLine : Nat → Parse (List Command)
  | 0 => failure
  | fuel + 1 => do
    match ← peekToken fuel with
    | .newline => let _ ← readToken fuel; return []
    | .finish => return []
    | _ =>
      let first ← readPipeline fuel
      let c ← readChain fuel first
      match ← readToken fuel with
      | .operator "&" => return .background c :: (← readLine fuel)
      | .operator ";" => return c :: (← readLine fuel)
      | .newline => return [c]
      | .finish => return [c]
      | _ => failure

def readChain : Nat → Command → Parse Command
  | 0, _ => failure
  | fuel + 1, first => do
    let join : Option (Command → Command → Command) := match ← peekToken fuel with
      | .operator "&&" => some .both
      | .operator "||" => some .either
      | _ => none
    match join with
    | none => return first
    | some join =>
      let _ ← readToken fuel
      skipNewlines fuel
      let second ← readPipeline fuel
      readChain fuel (join first second)

def readPipeline : Nat → Parse Command
  | 0 => failure
  | fuel + 1 => do
    if (← peekToken fuel).isWord "!" then
      let _ ← readToken fuel
      return .negation (← readPipeline fuel)
    else
      match ← readParts fuel with
      | [c] => return c
      | parts => return .pipeline parts

def readParts : Nat → Parse (List Command)
  | 0 => failure
  | fuel + 1 => do
    let c ← readCommand fuel
    if (← peekToken fuel).isOperator "|" then
      let _ ← readToken fuel
      skipNewlines fuel
      return c :: (← readParts fuel)
    else return [c]

def readCommand : Nat → Parse Command
  | 0 => failure
  | fuel + 1 => do
    let t ← peekToken fuel
    let compound (body : Parse Command) : Parse Command := do
      let _ ← readToken fuel
      let c ← body
      match ← readRedirections fuel with
      | [] => return c
      | redirections => return .redirected c redirections
    if t.isOperator "(" then
      compound do
        let body ← readList fuel
        if (← readToken fuel).isOperator ")" then return .subshell body else failure
    else
      match t, t.bare? with
      | _, some "\x7b" => compound do
        let body ← readList fuel
        expectWord fuel "\x7d"
        return .group body
      | _, some "if" => compound (readBranch fuel)
      | _, some "while" => compound do return .loop false (← readList fuel) (← readBody fuel)
      | _, some "until" => compound do return .loop true (← readList fuel) (← readBody fuel)
      | _, some "for" => compound (readEach fuel)
      | _, some "case" => compound do
        match ← readToken fuel with
        | .word w =>
          skipNewlines fuel
          expectWord fuel "in"
          return .choose w (← readArms fuel)
        | _ => failure
      | .word _, _ => if t.endsList then failure else readSimple fuel [] [] []
      | .redirect _ _, _ => readSimple fuel [] [] []
      | _, _ => failure

def readBranch : Nat → Parse Command
  | 0 => failure
  | fuel + 1 => do
    let condition ← readList fuel
    expectWord fuel "then"
    let body ← readList fuel
    match (← readToken fuel).bare? with
    | some "elif" => return .branch condition body [← readBranch fuel]
    | some "else" =>
      let otherwise ← readList fuel
      expectWord fuel "fi"
      return .branch condition body otherwise
    | some "fi" => return .branch condition body []
    | _ => failure

def readBody : Nat → Parse (List Command)
  | 0 => failure
  | fuel + 1 => do
    expectWord fuel "do"
    let body ← readList fuel
    expectWord fuel "done"
    return body

def readEach : Nat → Parse Command
  | 0 => failure
  | fuel + 1 => do
    let name := ((← readToken fuel).bare?.getD "").toList
    if !isName name then failure
    let words : Option (List Word) ←
      if (← peekToken fuel).isWord "in" then do
        let _ ← readToken fuel
        pure (some (← readWords fuel))
      else pure none
    if (← peekToken fuel).isOperator ";" then
      let _ ← readToken fuel
    skipNewlines fuel
    return .each name words (← readBody fuel)

def readWords : Nat → Parse (List Word)
  | 0 => failure
  | fuel + 1 => do
    match ← peekToken fuel with
    | .word w =>
      let _ ← readToken fuel
      return w :: (← readWords fuel)
    | _ => return []

def readArms : Nat → Parse (List (List Word × List Command))
  | 0 => failure
  | fuel + 1 => do
    skipNewlines fuel
    let t ← readToken fuel
    if t.isWord "esac" then return []
    else
      let first ← if t.isOperator "(" then readToken fuel else pure t
      let patterns ← readPatterns fuel first
      let body ← readList fuel
      let last ← readToken fuel
      if last.isOperator ";;" then return (patterns, body) :: (← readArms fuel)
      else if last.isWord "esac" then return [(patterns, body)]
      else failure

def readPatterns : Nat → Token → Parse (List Word)
  | 0, _ => failure
  | fuel + 1, first => do
    match first with
    | .word w =>
      match ← readToken fuel with
      | .operator ")" => return [w]
      | .operator "|" => return w :: (← readPatterns fuel (← readToken fuel))
      | _ => failure
    | _ => failure

/-- A command of words. One word before a pair of parentheses names a function. -/
def readSimple : Nat → List (Octets × Word) → List Word → List Redirection → Parse Command
  | 0, _, _, _ => failure
  | fuel + 1, assignments, words, redirections => do
    match ← peekToken fuel with
    | .word w =>
      let _ ← readToken fuel
      match w.assignment?, words with
      | some a, [] => readSimple fuel (assignments ++ [a]) words redirections
      | _, _ => readSimple fuel assignments (words ++ [w]) redirections
    | .redirect descriptor op =>
      let _ ← readToken fuel
      let r ← readRedirection fuel descriptor op
      readSimple fuel assignments words (redirections ++ [r])
    | .operator "(" =>
      match assignments, words, redirections with
      | [], [[.plain name]], [] =>
        let _ ← readToken fuel
        if !(← readToken fuel).isOperator ")" || !isName name then failure
        skipNewlines fuel
        return .function name (← readCommand fuel)
      | _, _, _ => failure
    | _ => return .simple assignments words redirections

def readRedirections : Nat → Parse (List Redirection)
  | 0 => failure
  | fuel + 1 => do
    match ← peekToken fuel with
    | .redirect descriptor op =>
      let _ ← readToken fuel
      let r ← readRedirection fuel descriptor op
      return r :: (← readRedirections fuel)
    | _ => return []

def readRedirection : Nat → Option Nat → String → Parse Redirection
  | 0, _, _ => failure
  | fuel + 1, descriptor, op => do
    match ← readToken fuel with
    | .word w =>
      match op with
      | "<" => return .file (descriptor.getD 0) .read w
      | ">" => return .file (descriptor.getD 1) .write w
      | ">>" => return .file (descriptor.getD 1) .append w
      | "<&" => return .duplicate (descriptor.getD 0) w
      | ">&" => return .duplicate (descriptor.getD 1) w
      | _ =>
        let number := (← get).documents.size
        let (delimiter, isLiteral) := delimiterOf w
        let a : Awaited := { number, delimiter, dropsTabs := op == "<<-", isLiteral }
        modify fun s => { s with documents := s.documents.push [], awaited := s.awaited ++ [a] }
        return .document (descriptor.getD 0) number
    | _ => failure

end

end InputDeck.Shell
