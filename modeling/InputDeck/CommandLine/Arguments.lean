/-!
# Options and positional arguments

The arguments of a command are options, which start with a dash, and positional ones. An option is
written in long form with its value after an equals sign or in the next argument, or in short form,
where several may share a dash and a value may follow at once. Two dashes end the options.

A value starts with a dash only if it is attached to its option, and no option may be given twice.
-/

namespace InputDeck.CommandLine

inductive ValueKind where
  | text
  | path
  deriving DecidableEq, Repr

def ValueKind.accepts : ValueKind → String → Bool
  | text, _ => true
  | path, value => value != ""

inductive SwitchKind where
  | flag
  | valued (kind : ValueKind)
  | help
  | version
  deriving DecidableEq, Repr

structure Switch where
  long : String
  short : Option Char
  kind : SwitchKind
  deriving DecidableEq, Repr

structure Places where
  kind : ValueKind
  least : Nat
  /-- The largest number of them, if there is one. -/
  most : Option Nat
  deriving DecidableEq, Repr

inductive Halt where
  | usage
  | help
  | version
  deriving DecidableEq, Repr

/-- The arguments read so far: the options by their long names, a flag with an empty value. -/
structure Given where
  options : List (String × String)
  positionals : List String
  deriving DecidableEq, Repr

namespace Given

def empty : Given :=
  ⟨[], []⟩

def value? (g : Given) (long : String) : Option String :=
  g.options.lookup long

def isSet (g : Given) (long : String) : Bool :=
  (g.value? long).isSome

def set (g : Given) (s : Switch) (value : String) : Except Halt Given :=
  let accepted := match s.kind with
    | .valued kind => kind.accepts value
    | _ => true
  match s.kind with
  | .help => .error .help
  | .version => .error .version
  | _ =>
    if g.isSet s.long || !accepted then .error .usage
    else .ok { g with options := g.options ++ [(s.long, value)] }

def place (p : Places) (g : Given) (value : String) : Except Halt Given :=
  if p.most.any (· ≤ g.positionals.length) || !p.kind.accepts value then .error .usage
  else .ok { g with positionals := g.positionals ++ [value] }

def finish (p : Places) (g : Given) : Except Halt Given :=
  if g.positionals.length < p.least then .error .usage else .ok g

/-- Takes options in short form that share a dash. The last one may wait for its value. -/
def setShort (switches : List Switch) : Given → List Char → Except Halt (Given × Option Switch)
  | g, [] => .ok (g, none)
  | g, c :: cs =>
    match switches.find? (·.short == some c) with
    | none => .error .usage
    | some s =>
      match s.kind, cs with
      | .valued _, [] => .ok (g, some s)
      | .valued _, '=' :: value => (g.set s (String.ofList value)).map (·, none)
      | .valued _, value => (g.set s (String.ofList value)).map (·, none)
      | _, _ =>
        match g.set s "" with
        | .error halt => .error halt
        | .ok next => next.setShort switches cs

def setLong (switches : List Switch) (g : Given) (cs : List Char) :
    Except Halt (Given × Option Switch) :=
  let name := String.ofList (cs.takeWhile (· != '='))
  let attached : Option String := match cs.dropWhile (· != '=') with
    | [] => none
    | _ :: value => some (String.ofList value)
  match switches.find? (·.long == name) with
  | none => .error .usage
  | some s =>
    match s.kind, attached with
    | .valued _, some value => (g.set s value).map (·, none)
    | .valued _, none => .ok (g, some s)
    | _, some _ => .error .usage
    | _, none => (g.set s "").map (·, none)

end Given

/-- The argument holds options; a dash alone does not. -/
def isDashed (arg : String) : Bool :=
  match arg.toList with
  | '-' :: _ :: _ => true
  | _ => false

def readDashed (switches : List Switch) (g : Given) (arg : String) :
    Except Halt (Given × Option Switch) :=
  match arg.toList with
  | '-' :: '-' :: cs => g.setLong switches cs
  | _ :: cs => g.setShort switches cs
  | [] => .error .usage

/-- Reads options up to the first positional argument, and returns it with what follows. -/
def readLeading (switches : List Switch) : Option Switch → Given → List String →
    Except Halt (Given × String × List String)
  | _, _, [] => .error .usage
  | waiting, g, arg :: args =>
    if arg = "--" then .error .usage
    else if isDashed arg then
      if waiting.isSome then .error .usage
      else match readDashed switches g arg with
        | .error halt => .error halt
        | .ok (next, waiting) => readLeading switches waiting next args
    else match waiting with
      | none => .ok (g, arg, args)
      | some s =>
        match g.set s arg with
        | .error halt => .error halt
        | .ok next => readLeading switches none next args

def readAll (switches : List Switch) (p : Places) : Option Switch → Given → List String →
    Except Halt Given
  | none, g, [] => g.finish p
  | some _, _, [] => .error .usage
  | waiting, g, arg :: args =>
    if arg = "--" then
      if waiting.isSome then .error .usage
      else match args.foldlM (Given.place p) g with
        | .error halt => .error halt
        | .ok last => last.finish p
    else if isDashed arg then
      if waiting.isSome then .error .usage
      else match readDashed switches g arg with
        | .error halt => .error halt
        | .ok (next, waiting) => readAll switches p waiting next args
    else
      let taken := match waiting with
        | none => g.place p arg
        | some s => g.set s arg
      match taken with
      | .error halt => .error halt
      | .ok next => readAll switches p none next args

end InputDeck.CommandLine
