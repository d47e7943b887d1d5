import InputDeck.Host.Snapshot
import InputDeck.Server.Connection
import InputDeck.Server.Frame

/-!
# A server on standard input and output
-/

namespace InputDeck.Server

/-- The files that the next message may lead to: the version files of the workspace, the installed
program, and the data files of the versions in question. -/
def Service.inputs (s : Service) (h : Host) (m : Json) : List Path :=
  let session := s.session
  let given := match m.get? "params" with
    | some params =>
      ((params.get? "initializationOptions").toList ++ (params.get? "settings").toList).filterMap
        fun v => (Settings.ofJson v).toOption
    | none => []
  let arguments := ((m.get? "params").bind (·.get? "arguments")).bind Json.array?
  let versions := (arguments.getD []).filterMap Json.string?
  let settings := session.settings :: given
  h.programPaths Version.Probe.standard.program ++
  session.roots.flatMap (fun root => Version.workspaceFiles.map root.join) ++
  (settings.filterMap Settings.dataFolder).flatMap fun folder =>
    (defaultVersion :: settings.map Settings.version ++ versions).map fun version =>
      folder.join (Catalog.dataFileName version)

def Service.detectedFiles (s : Service) (around : Surroundings) : List Path :=
  let texts := s.session.documents.values.map Editor.Document.text
  let detected := (none :: texts.map some).filterMap fun text =>
    Version.detect? around.host around.installed text s.session.roots
  s.session.settings.dataFolder.toList.flatMap fun folder =>
    detected.map fun version => folder.join (Catalog.dataFileName version)

def surroundings (s : Service) (m : Json) : IO Surroundings := do
  let blank ← Host.ofMachine
  let first ← blank.snapshot (s.inputs blank m)
  let installed := Version.Probe.standard.ask? first
  let second ← first.snapshot (s.detectedFiles ⟨first, installed⟩)
  return ⟨second, installed⟩

/-- The length that the header of the next message gives; none at the end of the input. -/
partial def readHeader (input : IO.FS.Stream) (length : Option Nat) : IO (Option Nat) := do
  let line ← input.getLine
  if line.isEmpty then return none
  else if Frame.endsHeader line then return length
  else readHeader input ((Frame.length? line).or length)

partial def readBody (input : IO.FS.Stream) (length : Nat) (done : ByteArray) : IO ByteArray := do
  if length ≤ done.size then return done
  let bytes ← input.read (length - done.size).toUSize
  if bytes.isEmpty then return done else readBody input length (done ++ bytes)

partial def serveFrom (input output : IO.FS.Stream) (c : Connection) : IO Unit := do
  match ← readHeader input none with
  | none => return
  | some length =>
    let bytes ← readBody input length .empty
    let text := Text.Utf8.decodeLossy bytes.toList
    let around ← surroundings c.service ((Json.read? text).getD .null)
    let (next, frames) := c.acceptText around text
    for frame in frames do
      output.putStr (Frame.render frame)
    output.flush
    if next.isOver then return else serveFrom input output next

def serve : IO Unit := do
  serveFrom (← IO.getStdin) (← IO.getStdout) .fresh

end InputDeck.Server
