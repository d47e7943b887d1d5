import InputDeck.Host.Program
import InputDeck.Version.Marker

/-!
# Detecting the version in use

Three signals are asked in turn: the installed program, the active document, and the version files
of the workspace. A signal that fails for any reason is as good as none.
-/

namespace InputDeck.Version

/-- How the installed program is asked for its version: what to run, and for how long to wait in
milliseconds. -/
structure Probe where
  program : String
  limit : Nat
  deriving DecidableEq, Repr

def Probe.standard : Probe :=
  ⟨"octopus", 5000⟩

/-- Asks the installed program for its version; running it may change the host. -/
def Probe.ask (probe : Probe) (h : Host) : Option String × Host :=
  let outcome := h.run probe.program ["--version"] probe.limit
  (outcome.output.bind fun bytes => announced? (Text.Utf8.decodeLossy bytes), outcome.host)

def Probe.ask? (probe : Probe) (h : Host) : Option String :=
  (probe.ask h).1

/-- The files of a workspace folder that may hold a marker, in the order they are looked at. -/
def workspaceFiles : List String :=
  ["octopus.conf", "config.inp", "version.txt", ".octopus-version"]

def markedFile? (h : Host) (p : Path) : Option String :=
  match h.readText p with
  | .ok text => marked? text
  | .error _ => none

def inWorkspace? (h : Host) (roots : List Path) : Option String :=
  roots.findSome? fun root => workspaceFiles.findSome? fun name => markedFile? h (root.join name)

/-- The first of three signals: the answer of the probe, the active document, the workspace. -/
def detect? (h : Host) (probed : Option String) (document : Option String) (roots : List Path) :
    Option String :=
  probed.or ((document.bind marked?).or (inWorkspace? h roots))

end InputDeck.Version
