import InputDeck.Host.Basic
import InputDeck.Shell.Script

/-!
# The machine that runs scripts

A shell has variables, functions and open files of its own; a subshell starts with a copy of them.
Files, buffers and the clock belong to the machine and are shared by all shells. The clock counts
the milliseconds that commands wait; all else takes no time.
-/

namespace InputDeck.Shell

inductive Target where
  | nothing
  /-- What the caller of the script sees. -/
  | output
  | complaints
  /-- A text that is kept until it is read. -/
  | buffer (number : Nat)
  | file (location : Host.Location)
  deriving DecidableEq, Repr

structure World where
  host : Host
  buffers : Array Octets
  clock : Nat
  /-- When the caller stops waiting. -/
  limit : Nat
  /-- What was printed to the caller and when, the last first. -/
  printed : List (Nat × Octets)
  /-- When the last command that could still print to the caller ends. -/
  busyUntil : Nat

structure Variable where
  value : Octets
  isExported : Bool
  deriving DecidableEq, Repr

structure Interpreter where
  name : Octets
  arguments : List Octets
  bindings : List (Octets × Variable)
  functions : List (Octets × Command)
  folder : Host.Location
  descriptors : List (Nat × Target)
  status : Nat
  stopsOnFailure : Bool
  documents : Array Word
  /-- When the last command that runs beside the script ends. -/
  jobsUntil : Nat

structure Machine where
  shell : Interpreter
  world : World

inductive Flow where
  | next
  | breaks (levels : Nat)
  | continues (levels : Nat)
  | returns
  | exits
  deriving DecidableEq, Repr

abbrev Act := StateM Machine

def getShell : Act Interpreter :=
  return (← get).shell

def modifyShell (f : Interpreter → Interpreter) : Act Unit :=
  modify fun m => { m with shell := f m.shell }

def modifyWorld (f : World → World) : Act Unit :=
  modify fun m => { m with world := f m.world }

def setStatus (status : Nat) : Act Unit :=
  modifyShell ({ · with status })

/-! ## Variables -/

namespace Interpreter

def value? (s : Interpreter) (name : Octets) : Option Octets :=
  (s.bindings.lookup name).map Variable.value

def put (s : Interpreter) (name : Octets) (v : Option Variable) : Interpreter :=
  { s with bindings := v.toList.map (name, ·) ++ s.bindings.filter (·.1 != name) }

def assign (s : Interpreter) (name value : Octets) : Interpreter :=
  s.put name (some ⟨value, (s.bindings.lookup name).any Variable.isExported⟩)

def pass (s : Interpreter) (name : Octets) : Interpreter :=
  s.put name ((s.bindings.lookup name).map ({ · with isExported := true }))

def separators (s : Interpreter) : Octets :=
  (s.value? "IFS".toList).getD [' ', '\t', '\n']

def searchPath (s : Interpreter) : Octets :=
  (s.value? "PATH".toList).getD []

/-- The value of a variable, of an argument, or of what the shell keeps itself. -/
def parameter? (s : Interpreter) (name : Octets) : Option Octets :=
  match name, Octets.toNat? name with
  | ['#'], _ => some (Octets.ofInt s.arguments.length)
  | ['?'], _ => some (Octets.ofInt s.status)
  | ['@'], _ => some ([' '].intercalate s.arguments)
  | ['*'], _ => some ([' '].intercalate s.arguments)
  | _, some 0 => some s.name
  | _, some (n + 1) => s.arguments[n]?
  | _, none => s.value? name

end Interpreter

/-! ## Files -/

def pathOf (o : Octets) : Path :=
  ⟨o.toText⟩

def folderText (location : Host.Location) : Octets :=
  Octets.ofString ("/" ++ "/".intercalate location)

def hostHere : Act Host := do
  let m ← get
  return { m.world.host with workingFolder := m.shell.folder }

def octetsOf : Host.Content → Octets
  | .text s => Octets.ofString s
  | .bytes b => Octets.ofBytes b

def contentOf (o : Octets) : Host.Content :=
  match Text.Utf8.decode? o.toBytes with
  | some s => .text s
  | none => .bytes o.toBytes

def fileText? (h : Host) (name : Octets) : Option Octets :=
  match h.entry (pathOf name) with
  | .ok (.file content _) => some (octetsOf content)
  | _ => if name == "/dev/null".toList then some [] else none

def World.prepare (w : World) (location : Host.Location) (keeps : Bool) : World :=
  let new : Host.Entry := match w.host.find? location with
    | some (.file content executable) => .file (if keeps then content else .text "") executable
    | _ => .file (.text "") false
  { w with host := w.host.put location new }

def World.write (w : World) (text : Octets) : Target → World
  | .output => { w with printed := (w.clock, text) :: w.printed }
  | .buffer n => { w with buffers := w.buffers.modify n (· ++ text) }
  | .file location =>
    match w.host.find? location with
    | some (.file content executable) =>
      let new := contentOf (octetsOf content ++ text)
      { w with host := w.host.put location (.file new executable) }
    | _ => w
  | _ => w

/-- Prints to a descriptor; a closed one takes nothing. -/
def emit (descriptor : Nat) (text : Octets) : Act Unit := do
  let target := (← getShell).descriptors.lookup descriptor
  modifyWorld (·.write text (target.getD .nothing))

def complain (text : String) : Act Unit := do
  emit 2 ((← getShell).name ++ Octets.ofString (": 1: " ++ text ++ "\n"))

/-- What is left to read from a descriptor, of which `keep` says how much stays there. -/
def readFrom (descriptor : Nat) (keep : Octets → Octets) : Act Octets := do
  match (← getShell).descriptors.lookup descriptor with
  | some (.buffer n) =>
    let text := ((← get).world.buffers[n]?).getD []
    modifyWorld fun w => { w with buffers := w.buffers.setIfInBounds n (keep text) }
    return text.take (text.length - (keep text).length)
  | _ => return []

def setDescriptor (descriptor : Nat) (target : Option Target) : Act Unit :=
  modifyShell fun s =>
    let others := s.descriptors.filter (·.1 != descriptor)
    { s with descriptors := target.toList.map (descriptor, ·) ++ others }

def addBuffer (text : Octets) : Act Target := do
  let n := (← get).world.buffers.size
  modifyWorld fun w => { w with buffers := w.buffers.push text }
  return .buffer n

def targetOf? (opening : Opening) (name : Octets) : Act (Option Target) := do
  let h ← hostHere
  let s ← getShell
  match opening, name.toText, h.locate (pathOf name) with
  | .read, _, _ => (fileText? h name).mapM addBuffer
  | _, "/dev/null", _ => return some .nothing
  | _, "/dev/stdout", _ => return s.descriptors.lookup 1
  | _, "/dev/stderr", _ => return s.descriptors.lookup 2
  | _, _, .error _ => return none
  | _, _, .ok location =>
    match h.find? location with
    | some .folder => return none
    | _ =>
      modifyWorld (·.prepare location (opening = .append))
      return some (.file location)

def isOver : Act Bool := do
  let w := (← get).world
  return w.limit ≤ w.clock

/-- The script is given up: it would not end before its caller stops waiting. -/
def giveUp : Act Flow := do
  modifyWorld fun w => { w with clock := max w.clock w.limit }
  return .exits

end InputDeck.Shell
