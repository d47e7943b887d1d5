import InputDeck.CommandLine.Interest
import InputDeck.CommandLine.Run
import InputDeck.Host.Snapshot
import InputDeck.Server.Stdio

/-!
# The program

Run as `octo` it carries out a command, and under the name `octopus-lsp` it serves an editor.
-/

namespace InputDeck

open InputDeck.CommandLine

def readEnvironment : IO Environment :=
  ["OCTOPUS_VERSION", "OCTOPUS_DATA_DIR", "CLICOLOR_FORCE"].filterMapM fun name => do
    return (← IO.getEnv name).map (name, ·)

def machineFor (i : Invocation) : IO Host := do
  let blank ← Host.ofMachine
  let first ← blank.snapshot (i.inputs blank)
  first.snapshot (i.dataFiles first)

/-- Checks a file again whenever its content has changed. -/
partial def keepWatching (i : Invocation) (colours : Bool) (c : Catalog) (file : Path)
    (last : Except Host.Fault String) : IO Unit := do
  IO.sleep 200
  let h ← machineFor i
  let now := h.readText file
  let changed := match last, now with
    | .ok a, .ok b => a != b
    | .error a, .error b => a != b
    | _, _ => true
  if changed then
    IO.print (Command.renderLines colours
      ([[], [Command.coloured .cyan "🔄 Change detected"]] ++ Command.watchedLines h c file ++ [[]]))
    (← IO.getStdout).flush
  keepWatching i colours c file now

def watchOn (i : Invocation) (colours : Bool) (h : Host) : IO Unit := do
  match i.task with
  | .watch file verbose =>
    match (Command.watch h i.choice file verbose).result with
    | .ok c =>
      IO.println ""
      keepWatching i colours c file (h.readText file)
    | .error _ => return
  | _ => return

def execute (args : List String) : IO UInt32 := do
  let env ← readEnvironment
  let h ← match CommandLine.read env args with
    | .ok i => machineFor i
    | .error _ => Host.ofMachine
  let exit := CommandLine.run env h args
  h.writeBack exit.host
  IO.print exit.output
  (← IO.getStdout).flush
  match CommandLine.read env args with
  | .ok i => watchOn i (wantsColours env) h
  | .error .usage => IO.eprint helpText
  | .error _ => pure ()
  match exit.error with
  | some e => IO.eprintln ("Error: " ++ e.message)
  | none => pure ()
  return exit.code.toUInt32

end InputDeck

def main (args : List String) : IO UInt32 := do
  let name := toString (← IO.appPath)
  if (InputDeck.Path.mk name).parts.getLast? == some "octopus-lsp" then
    InputDeck.Server.serve
    return 0
  else InputDeck.execute args
