import InputDeck.Shell.Machine
import InputDeck.Shell.Reader
import InputDeck.Shell.Tool

/-!
# Running scripts

Words are expanded when their command runs, since expanding them may run other commands. The depth
of a run is bounded by `fuel`: a script that goes deeper is given up.
-/

namespace InputDeck.Shell

abbrev Attempt := OptionT Act

def failWith {α : Type} (text : String) : Attempt α := do
  complain text
  failure

/-! ## Programs -/

def programs : List String :=
  ["bash", "cat", "dash", "echo", "env", "false", "grep", "head", "printf", "sed", "sh", "sleep",
    "test", "true"]

inductive Runnable where
  | script (text : Octets)
  | system (name : String)

def runnableAt? (h : Host) (path : Octets) : Option Runnable :=
  match h.entry (pathOf path) with
  | .ok (.file content executable) => if executable then some (.script (octetsOf content)) else none
  | .ok .folder => none
  | .error _ =>
    let parts := (pathOf path).parts.filter (· != "")
    let name := parts.getLastD ""
    let isSystem := parts.dropLast == ["bin"] || parts.dropLast == ["usr", "bin"]
    if isSystem && (pathOf path).isAbsolute && programs.contains name then some (.system name)
    else none

/-- The path of the program that a name stands for: a name with a slash is a path already. -/
def findProgram? (h : Host) (folders name : Octets) : Option Octets :=
  let candidates := if name.contains '/' then [name]
    else (Text.splitAtEach ':' folders).map fun folder => folder ++ '/' :: name
  candidates.find? fun path => (runnableAt? h path).isSome

def interpreterLine? (text : Octets) : Option (Octets × Option Octets) :=
  match text with
  | '#' :: '!' :: rest =>
    let isSpace (c : Char) : Bool := c == ' ' || c == '\t'
    let line := (rest.takeWhile (· != '\n')).dropWhile isSpace
    let line := (line.reverse.dropWhile isSpace).reverse
    let name := line.takeWhile (!isSpace ·)
    let argument := (line.drop name.length).dropWhile isSpace
    if name.isEmpty then none
    else some (name, if argument.isEmpty then none else some argument)
  | _ => none

/-- Seconds, with places, in milliseconds. -/
def duration? (text : Octets) : Option Nat :=
  let whole := text.takeWhile (· != '.')
  let places := text.drop (whole.length + 1)
  Octets.toNat? (whole ++ (places ++ ['0', '0', '0']).take 3)

/-! ## The course of a script -/

def sequence : List (Act Flow) → Act Flow
  | [] => return .next
  | a :: rest => do
    match ← a with
    | .next => sequence rest
    | flow => return flow

def afterBody : Flow → Option Flow
  | .next => none
  | .breaks n => some (if n ≤ 1 then .next else .breaks (n - 1))
  | .continues n => if n ≤ 1 then none else some (.continues (n - 1))
  | flow => some flow

/-- Goes round a loop until a round says how the loop ends. A loop that goes round too often is
taken to have no end. -/
def roundAndRound (round : Act (Option Flow)) : Nat → Act Flow
  | 0 => giveUp
  | n + 1 => do
    match ← round with
    | some flow => return flow
    | none => roundAndRound round n

def forEachValue (round : Octets → Act (Option Flow)) : List Octets → Act Flow
  | [] => return .next
  | value :: rest => do
    match ← round value with
    | some flow => return flow
    | none => forEachValue round rest

/-- A failed command ends the script if that was asked for, unless its status is looked at. -/
def settled (isTested : Bool) (flow : Flow) : Act Flow := do
  let s ← getShell
  return if flow = .next && s.status != 0 && s.stopsOnFailure && !isTested then .exits else flow

def endWith (status : Nat) : Act Flow := do
  setStatus status
  return .exits

/-- Reads and runs a source line by line. A fault in a line ends the script when it is reached. -/
def runLines (run : List Command → Act Flow) : Nat → Source → Act Flow
  | 0, _ => return .next
  | n + 1, source => do
    match (readLine (16 * source.rest.length + 64)).run source with
    | none =>
      complain "Syntax error"
      endWith 2
    | some (commands, source) =>
      modifyShell ({ · with documents := source.documents })
      match ← run commands with
      | .next =>
        let documents := (← getShell).documents
        if source.rest.isEmpty then return .next else runLines run n { source with documents }
      | flow => return flow

/-! ## Commands of the shell -/

def lineFields (separators : Octets) : Nat → Octets → List Octets
  | 0, _ => []
  | count + 1, text =>
    let isSpace (c : Char) : Bool := separators.contains c && isSpaceChar c
    let text := text.dropWhile isSpace
    if count == 0 then [(text.reverse.dropWhile isSpace).reverse]
    else
      let field := text.takeWhile (!separators.contains ·)
      let rest := (text.drop field.length).dropWhile isSpace
      let isDivided := rest.head?.any fun c => separators.contains c && !isSpaceChar c
      field :: lineFields separators count (if isDivided then rest.drop 1 else rest)

def runRead (names : List Octets) : Act Nat := do
  let line ← readFrom 0 fun text => (text.dropWhile (· != '\n')).drop 1
  let s ← getShell
  let fields := lineFields s.separators names.length (line.filter (· != '\n'))
  modifyShell fun s => (names.zip fields).foldl (fun s (name, field) => s.assign name field) s
  return if line.getLast? == some '\n' then 0 else 1

def runSet : List Octets → Act Unit
  | ['-', '-'] :: arguments => modifyShell ({ · with arguments })
  | ('-' :: letters) :: rest => do
    if letters.contains 'e' then modifyShell ({ · with stopsOnFailure := true })
    runSet rest
  | ('+' :: letters) :: rest => do
    if letters.contains 'e' then modifyShell ({ · with stopsOnFailure := false })
    runSet rest
  | [] => return ()
  | arguments => modifyShell ({ · with arguments })

def runExport (words : List Octets) : Act Unit :=
  words.forM fun word => modifyShell fun s =>
    let name := word.takeWhile (· != '=')
    let s := if name.length < word.length then s.assign name (word.drop (name.length + 1)) else s
    s.pass name

def runCd (target : Octets) : Act Nat := do
  let h ← hostHere
  match h.locate (pathOf target), h.isFolder (pathOf target) with
  | .ok location, true =>
    modifyShell fun s => { s with folder := location }.assign "PWD".toList (folderText location)
    return 0
  | _, _ =>
    complain ("cd: can't cd to " ++ target.toText)
    return 2

def builtin? (name : String) (arguments : List Octets) : Option (Act Nat) :=
  match name with
  | ":" => some (return 0)
  | "true" => some (return 0)
  | "false" => some (return 1)
  | "echo" => some do
    emit 1 (echo false arguments)
    return 0
  | "printf" => some do
    emit 1 (printFormat (arguments.headD []) (arguments.length + 1) (arguments.drop 1))
    return if arguments.isEmpty then 2 else 0
  | "test" => some do return conditionStatus (← hostHere) false arguments
  | "[" => some do return conditionStatus (← hostHere) true arguments
  | "cd" => some (runCd (arguments.headD []))
  | "pwd" => some do
    emit 1 (folderText (← getShell).folder ++ ['\n'])
    return 0
  | "export" => some do
    runExport arguments
    return 0
  | "unset" => some do
    arguments.forM fun name => modifyShell (·.put name none)
    return 0
  | "read" => some (runRead (arguments.filter (·.head? != some '-')))
  | "set" => some do
    runSet arguments
    return 0
  | "shift" => some do
    let n := (Octets.toNat? (arguments.headD ['1'])).getD 1
    modifyShell fun s => { s with arguments := s.arguments.drop n }
    return 0
  | "wait" => some do
    let finish := (← getShell).jobsUntil
    modifyWorld fun w => { w with clock := max w.clock finish }
    return 0
  | _ => none

def steering : List String :=
  [".", "break", "command", "continue", "eval", "exec", "exit", "return"]

/-! ## Expansion and commands -/

def valueBits (isQuoted : Bool) (text : Octets) : List Bit :=
  text.map fun c => .glyph ⟨c, isQuoted, !isQuoted⟩

def quotedBits (text : Octets) : List Bit :=
  .presence :: valueBits true text

/-- How deep a script may go. -/
def depth : Nat :=
  3000

/-- How often a loop may go round. -/
def rounds : Nat :=
  200000

mutual

/-- The bits of a word. Text that is not quoted is divided into fields if `isResult` holds. -/
def expandPieces : Nat → Bool → Bool → Word → Attempt (List Bit)
  | 0, _, _, _ => failure
  | fuel + 1, isQuoted, isResult, pieces => do
    let bits ← pieces.mapM (expandPiece fuel isQuoted isResult)
    return bits.flatten

def expandPiece : Nat → Bool → Bool → Piece → Attempt (List Bit)
  | 0, _, _, _ => failure
  | fuel + 1, isQuoted, isResult, piece => do
    match piece with
    | .plain text => return text.map fun c => .glyph ⟨c, isQuoted, isResult && !isQuoted⟩
    | .quoted text => return quotedBits text
    | .double [.parameter ['@'] .value] =>
      let s ← (getShell : Act Interpreter)
      return [Bit.fieldEnd].intercalate (s.arguments.map quotedBits)
    | .double pieces => return .presence :: (← expandPieces fuel true false pieces)
    | .parameter name use => expandParameter fuel isQuoted name use
    | .output commands => return valueBits isQuoted (← (outputOf fuel commands : Act Octets))
    | .arithmetic pieces =>
      let text := Bit.text (← expandPieces fuel true false pieces)
      let s ← (getShell : Act Interpreter)
      match Arithmetic.value? (fun name => (s.value? name).getD []) text with
      | some n => return valueBits isQuoted (Octets.ofInt n)
      | none => failWith "arithmetic expression: expecting primary"

def expandParameter : Nat → Bool → Octets → Use → Attempt (List Bit)
  | 0, _, _, _ => failure
  | fuel + 1, isQuoted, name, use => do
    let s ← (getShell : Act Interpreter)
    let value := s.parameter? name
    let own := valueBits isQuoted (value.getD [])
    match use with
    | .value => return own
    | .length => return valueBits isQuoted (Octets.ofInt (value.getD []).length)
    | .trim atEnd longest pattern =>
      let p := Pattern.ofWord (← expandGlyphs fuel pattern)
      return valueBits isQuoted (p.trim atEnd longest (value.getD []))
    | .instead how orEmpty word =>
      let isMissing := value.isNone || (orEmpty && value == some [])
      match how, isMissing with
      | .alternative, true => return []
      | .alternative, false => expandPieces fuel isQuoted true word
      | _, false => return own
      | .fallback, true => expandPieces fuel isQuoted true word
      | .assignment, true =>
        let new ← expandText fuel word
        (modifyShell (·.assign name new) : Act Unit)
        return valueBits isQuoted new
      | .complaint, true => failWith (name.toText ++ ": " ++ (← expandText fuel word).toText)

def expandText : Nat → Word → Attempt Octets
  | 0, _ => failure
  | fuel + 1, word => return Bit.text (← expandPieces fuel false false word)

def expandGlyphs : Nat → Word → Attempt (List Glyph)
  | 0, _ => failure
  | fuel + 1, word => return (← expandPieces fuel false false word).filterMap Bit.glyph?

def expandWords : Nat → List Word → Attempt (List Octets)
  | 0, _ => failure
  | fuel + 1, words => do
    let keeps := words.head?.bind Word.bare? == some "export".toList
    let fields ← words.mapM fun word => do
      let bits ← expandPieces fuel false false word
      let s ← (getShell : Act Interpreter)
      return if keeps && (Word.assignment? word).isSome then [Bit.text bits]
        else fieldsFrom s.separators none false bits
    return fields.flatten

def outputOf : Nat → List Command → Act Octets
  | 0, _ => do
    let _ ← giveUp
    return []
  | fuel + 1, commands => do
    let buffer ← addBuffer []
    let status ← runApart fuel none (some buffer) (.group commands)
    let saved := (← getShell).descriptors
    setDescriptor 0 (some buffer)
    let text ← readFrom 0 fun _ => []
    modifyShell ({ · with descriptors := saved, status })
    return (text.reverse.dropWhile (· == '\n')).reverse

def redirect : Nat → Redirection → Act Bool
  | 0, _ => return false
  | fuel + 1, r => do
    let s ← getShell
    let give (descriptor : Nat) (target : Option Target) (reason : String) : Act Bool := do
      if target.isNone then complain reason else setDescriptor descriptor target
      return target.isSome
    match r with
    | .file descriptor opening word =>
      match ← (expandText fuel word).run with
      | none => return false
      | some name => give descriptor (← targetOf? opening name) ("cannot open " ++ name.toText)
    | .duplicate descriptor word =>
      match ← (expandText fuel word).run with
      | none => return false
      | some ['-'] =>
        setDescriptor descriptor none
        return true
      | some text =>
        give descriptor ((Octets.toNat? text).bind (s.descriptors.lookup ·)) "Bad file descriptor"
    | .document descriptor number =>
      match ← (expandPieces fuel true false ((s.documents[number]?).getD [])).run with
      | none => return false
      | some bits => give descriptor (some (← addBuffer (Bit.text bits))) ""

/-- Runs a command in a shell that starts as a copy of this one, with its input and output as given,
and gives its status. -/
def runApart : Nat → Option Target → Option Target → Command → Act Nat
  | 0, _, _, _ => do
    let _ ← giveUp
    return 2
  | fuel + 1, input, output, command => do
    let saved ← getShell
    if input.isSome then setDescriptor 0 input
    if output.isSome then setDescriptor 1 output
    let _ ← runCommand fuel false command
    let status := (← getShell).status
    modifyShell fun _ => saved
    return status

def runPipeline : Nat → Nat → Option Target → List Command → Act Unit
  | 0, _, _, _ => do
    let _ ← giveUp
  | _ + 1, _, _, [] => return ()
  | fuel + 1, start, input, part :: parts => do
    let before := (← get).world.clock
    modifyWorld ({ · with clock := start })
    let buffer ← addBuffer []
    let status ← runApart fuel input (if parts.isEmpty then none else some buffer) part
    setStatus status
    modifyWorld fun w => { w with clock := max before w.clock }
    runPipeline fuel start (some buffer) parts

/-- Runs a command beside the script. The caller waits for it if it can print to the caller. -/
def runBeside : Nat → Command → Act Unit
  | 0, _ => do
    let _ ← giveUp
  | fuel + 1, command => do
    let start := (← get).world.clock
    let saved ← getShell
    let (inner, redirections) : Command × List Redirection := match command with
      | .simple assignments words redirections => (.simple assignments words [], redirections)
      | .redirected inner redirections => (inner, redirections)
      | other => (other, [])
    setDescriptor 0 (some .nothing)
    let isOpen ← redirections.allM (redirect fuel)
    let targets := (← getShell).descriptors.map Prod.snd
    if isOpen then
      let _ ← runApart fuel none none inner
    let finish := (← get).world.clock
    let isHeld := targets.contains .output || targets.contains .complaints
    modifyShell fun _ => { saved with status := 0, jobsUntil := max saved.jobsUntil finish }
    modifyWorld fun w =>
      { w with clock := start, busyUntil := if isHeld then max w.busyUntil finish else w.busyUntil }

def runList : Nat → Bool → List Command → Act Flow
  | 0, _, _ => giveUp
  | fuel + 1, isTested, commands => sequence (commands.map (runCommand fuel isTested))

/-- Runs a command. The status of a tested command is looked at, so its failure ends nothing. -/
def runCommand : Nat → Bool → Command → Act Flow
  | 0, _, _ => giveUp
  | fuel + 1, isTested, command => do
    if ← isOver then return .exits
    let s ← getShell
    match command with
    | .simple assignments words redirections =>
      runSimple fuel isTested assignments words redirections
    | .pipeline parts =>
      runPipeline fuel (← get).world.clock none parts
      settled isTested .next
    | .negation inner =>
      let flow ← runCommand fuel true inner
      if flow = .next then setStatus (if (← getShell).status == 0 then 1 else 0)
      return flow
    | .both first second =>
      let flow ← runCommand fuel true first
      if flow = .next && (← getShell).status == 0 then runCommand fuel isTested second
      else return flow
    | .either first second =>
      let flow ← runCommand fuel true first
      if flow = .next && (← getShell).status != 0 then runCommand fuel isTested second
      else return flow
    | .background inner =>
      runBeside fuel inner
      return .next
    | .group body => runList fuel isTested body
    | .subshell body =>
      setStatus (← runApart fuel none none (.group body))
      settled isTested .next
    | .branch condition body otherwise =>
      match ← runList fuel true condition with
      | .next =>
        if (← getShell).status == 0 then runList fuel isTested body
        else
          setStatus 0
          runList fuel isTested otherwise
      | flow => return flow
    | .loop isUntil condition body =>
      roundAndRound (do
        let last := (← getShell).status
        match ← runList fuel true condition with
        | .next =>
          if ((← getShell).status == 0) != isUntil then
            return afterBody (← runList fuel isTested body)
          else
            setStatus last
            return some .next
        | flow => return afterBody flow) rounds
    | .each name words body =>
      match ← (words.elim (return s.arguments) (expandWords fuel) : Attempt _).run with
      | none => endWith 2
      | some values =>
        setStatus 0
        forEachValue (fun value => do
          modifyShell (·.assign name value)
          return afterBody (← runList fuel isTested body)) values
    | .choose word arms =>
      match ← (expandText fuel word).run with
      | none => endWith 2
      | some text => runArms fuel isTested text arms
    | .function name body =>
      modifyShell fun s => { s with functions := (name, body) :: s.functions }
      setStatus 0
      return .next
    | .redirected inner redirections =>
      let isOpen ← redirections.allM (redirect fuel)
      if !isOpen then setStatus 2
      let flow ← if isOpen then runCommand fuel isTested inner else settled isTested .next
      modifyShell ({ · with descriptors := s.descriptors })
      return flow

def runArms : Nat → Bool → Octets → List (List Word × List Command) → Act Flow
  | 0, _, _, _ => giveUp
  | _ + 1, _, _, [] => do
    setStatus 0
    return .next
  | fuel + 1, isTested, text, (patterns, body) :: arms => do
    let fits ← (patterns.anyM fun pattern => do
      return (Pattern.ofWord (← expandGlyphs fuel pattern)).covers text : Attempt Bool).run
    match fits with
    | none => endWith 2
    | some false => runArms fuel isTested text arms
    | some true =>
      if body.isEmpty then setStatus 0
      runList fuel isTested body

/-- Runs a command of words. Its assignments last if there are no words, and its redirections if it
only replaces the streams of the shell. -/
def runSimple : Nat → Bool → List (Octets × Word) → List Word → List Redirection → Act Flow
  | 0, _, _, _, _ => giveUp
  | fuel + 1, isTested, assignments, words, redirections => do
    let before ← getShell
    match ← (expandWords fuel words).run with
    | none => endWith 2
    | some fields =>
      if fields.isEmpty then setStatus 0
      let values ← (assignments.mapM fun (name, word) => do
        let value ← expandText fuel word
        (modifyShell (·.assign name value) : Act Unit)
        if !fields.isEmpty then (modifyShell (·.pass name) : Act Unit) : Attempt _).run
      let isOpen ← redirections.allM (redirect fuel)
      let flow ← match values, isOpen, fields with
        | none, _, _ => endWith 2
        | _, false, _ => do
          setStatus 2
          pure .next
        | _, _, [] => pure .next
        | _, _, name :: arguments => runNamed fuel isTested true name arguments
      if fields != ["exec".toList] then
        modifyShell ({ · with descriptors := before.descriptors })
      if !fields.isEmpty then
        modifyShell fun s =>
          assignments.foldl (fun s (name, _) => s.put name (before.bindings.lookup name)) s
      settled isTested flow

/-- Runs what a name stands for: a function, unless `isFree` excludes them, a command of the shell
or a program. -/
def runNamed : Nat → Bool → Bool → Octets → List Octets → Act Flow
  | 0, _, _, _, _ => giveUp
  | fuel + 1, isTested, isFree, name, arguments => do
    let s ← getShell
    let text := String.ofList name
    match (if isFree then s.functions.lookup name else none), builtin? text arguments with
    | some body, _ =>
      modifyShell ({ · with arguments })
      let flow ← runCommand fuel isTested body
      modifyShell ({ · with arguments := s.arguments })
      return if flow = .returns then .next else flow
    | none, some act =>
      setStatus (← act)
      return .next
    | none, none =>
      if steering.contains text then runSteering fuel isTested text arguments
      else
        runProgram fuel name arguments
        return .next

def runSteering : Nat → Bool → String → List Octets → Act Flow
  | 0, _, _, _ => giveUp
  | fuel + 1, isTested, name, arguments => do
    let s ← getShell
    let h ← hostHere
    let given? := Octets.toNat? (arguments.headD [])
    match name, arguments with
    | "break", _ => setStatus 0; return .breaks (given?.getD 1)
    | "continue", _ => setStatus 0; return .continues (given?.getD 1)
    | "exit", _ => endWith (given?.getD s.status % 256)
    | "return", _ => setStatus (given?.getD s.status % 256); return .returns
    | "eval", _ => runText fuel isTested ([' '].intercalate arguments)
    | "exec", program :: arguments =>
      runProgram fuel program arguments
      return .exits
    | "command", ['-', 'v'] :: program :: _ =>
      let isOwn := (builtin? (String.ofList program) []).isSome ||
        (s.functions.lookup program).isSome
      let found := if isOwn then some program else findProgram? h s.searchPath program
      emit 1 (Octets.unlines found.toList)
      setStatus (if found.isSome then 0 else 127)
      return .next
    | "command", program :: arguments => runNamed fuel isTested false program arguments
    | ".", file :: _ =>
      match fileText? h file with
      | none =>
        complain (".: cannot open " ++ file.toText)
        endWith 2
      | some text =>
        let flow ← runText fuel isTested text
        return if flow = .returns then .next else flow
    | _, _ => setStatus 0; return .next

def runText : Nat → Bool → Octets → Act Flow
  | 0, _, _ => giveUp
  | fuel + 1, isTested, text => do
    setStatus 0
    let documents := (← getShell).documents
    runLines (runList fuel isTested) (text.length + 2) ⟨text, none, [], documents⟩

def runProgram : Nat → Octets → List Octets → Act Unit
  | 0, _, _ => do
    let _ ← giveUp
  | fuel + 1, name, arguments => do
    let s ← getShell
    let path := findProgram? (← hostHere) s.searchPath name
    match ← (path.elim (return none) fun path => startAt fuel path name arguments) with
    | some status => setStatus status
    | none =>
      complain (name.toText ++ ": not found")
      setStatus 127

/-- Starts the program at a path and gives its status; `name` is what it is called by. A script is
run by the interpreter that its first line names, and cannot be started without one. -/
def startAt : Nat → Octets → Octets → List Octets → Act (Option Nat)
  | 0, _, _, _ => do
    let _ ← giveUp
    return none
  | fuel + 1, path, name, arguments => do
    match runnableAt? (← hostHere) path with
    | none => return none
    | some (.system program) => some <$> runSystem fuel program name arguments
    | some (.script text) =>
      match interpreterLine? text with
      | none => return none
      | some (interpreter, argument) =>
        startAt fuel interpreter interpreter (argument.toList ++ path :: arguments)

def runSystem : Nat → String → Octets → List Octets → Act Nat
  | 0, _, _, _ => do
    let _ ← giveUp
    return 2
  | fuel + 1, program, name, arguments => do
    match program, arguments with
    | "echo", _ =>
      emit 1 (echo true arguments)
      return 0
    | "sleep", duration :: _ =>
      let n := (duration? duration).getD 0
      modifyWorld fun w => { w with clock := w.clock + n }
      return 0
    | "env", words =>
      let given := words.takeWhile (·.contains '=')
      let saved ← getShell
      runExport given
      match words.drop given.length with
      | [] => pure ()
      | inner :: arguments => runProgram fuel inner arguments
      let status := (← getShell).status
      modifyShell fun _ => saved
      return status
    | "sh", _ => runShell fuel name arguments
    | "dash", _ => runShell fuel name arguments
    | "bash", _ => runShell fuel name arguments
    | _, _ =>
      match builtin? program arguments, Filter.ofProgram? program arguments with
      | some act, _ => act
      | none, none =>
        complain (program ++ ": unknown arguments")
        return 2
      | none, some filter =>
        let h ← hostHere
        let files := filter.files.filter (· != ['-'])
        let texts := files.map (fileText? h)
        let input ← if files.isEmpty then readFrom 0 fun _ => [] else pure []
        let (output, status) := filter.apply (input ++ (texts.filterMap id).flatten)
        emit 1 output
        if texts.all Option.isSome then return status
        else
          complain (program ++ ": No such file or directory")
          return 1

def runShell : Nat → Octets → List Octets → Act Nat
  | 0, _, _ => do
    let _ ← giveUp
    return 2
  | fuel + 1, name, arguments => do
    let caller ← getShell
    let flags := arguments.takeWhile (·.head? == some '-')
    let words := arguments.drop flags.length
    let letters := flags.flatten
    let (text, name, arguments) ← match letters.contains 'c', words with
      | true, _ => pure (words.head?, (words.drop 1).headD name, words.drop 2)
      | false, file :: rest => do pure (fileText? (← hostHere) file, file, rest)
      | false, [] => do pure (some (← readFrom 0 fun _ => []), name, [])
    match text with
    | none =>
      complain "cannot open the script"
      return 2
    | some text =>
      modifyShell fun s =>
        { s with
          name, arguments
          bindings := s.bindings.filter (·.2.isExported)
          functions := []
          stopsOnFailure := letters.contains 'e'
          jobsUntil := 0 }
      let _ ← runText fuel false text
      let status := (← getShell).status
      modifyShell fun _ => caller
      return status

end

end InputDeck.Shell
