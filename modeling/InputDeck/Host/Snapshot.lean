import InputDeck.Host.Basic

/-!
# Snapshots of the running machine

A command sees a snapshot of the files it may look at, and what it has changed is written back when
it is done.
-/

namespace InputDeck.Host

def literalLocation (h : Host) (p : Path) : Location :=
  p.parts.foldl (fun location part =>
    if part == "" || part == "." then location
    else if part == ".." then location.dropLast
    else location ++ [part]) (h.start p)

/-- What lies at a path of the machine. Whether a file may be run is left to whoever runs it. -/
def machineEntry? (p : Path) : IO (Option Entry) := do
  try
    let bytes ← IO.FS.readBinFile p.text
    return some (.file (.bytes bytes.toList) true)
  catch e =>
    match e with
    | .inappropriateType none _ _ => return some .folder
    | _ => return none

def snapshot (h : Host) (paths : List Path) : IO Host :=
  paths.foldlM (fun h p => do
    match ← machineEntry? p with
    | some entry => return h.provide (h.literalLocation p) entry
    | none => return h) h

def ofMachine : IO Host := do
  let here := toString (← IO.currentDir)
  let search := (← IO.getEnv "PATH").getD ""
  let location := (Path.mk here).parts.filter (· != "")
  return (blank location ((search.splitOn ":").map Path.mk)).provideFolders location

def writeBack (before after : Host) : IO Unit := do
  for (location, text) in before.changes after do
    let folder := "/" ++ "/".intercalate location.dropLast
    IO.FS.createDirAll folder
    IO.FS.writeFile ("/" ++ "/".intercalate location) text

end InputDeck.Host
