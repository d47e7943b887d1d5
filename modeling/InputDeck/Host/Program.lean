import InputDeck.Shell.Run

/-!
# Running programs

A program is found by its path, or by its name in the folders that are searched. It may print, and
it may change the files of the host.
-/

namespace InputDeck.Host

open InputDeck.Shell

/-- What has become of a program: what it has printed, unless it could not be run or took too long,
and the host as it has left it. -/
structure Outcome where
  output : Option (List UInt8)
  host : Host

def programPaths (h : Host) (program : String) : List Path :=
  if program.toList.contains '/' then [⟨program⟩]
  else h.searchFolders.map (·.join program)

def searchPath (h : Host) : Octets :=
  [':'].intercalate (h.searchFolders.map fun p => Octets.ofString p.text)

def machine (h : Host) (limit : Nat) : Machine where
  shell :=
    { name := []
      arguments := []
      bindings :=
        [("PATH".toList, ⟨h.searchPath, true⟩), ("PWD".toList, ⟨folderText h.workingFolder, true⟩)]
      functions := []
      folder := h.workingFolder
      descriptors := [(0, .nothing), (1, .output), (2, .complaints)]
      status := 0
      stopsOnFailure := false
      documents := #[]
      jobsUntil := 0 }
  world := { host := h, buffers := #[], clock := 0, limit, printed := [], busyUntil := 0 }

/-- Runs a program and waits for its streams to be closed, up to a limit in milliseconds. What
commands beside the script print comes at its own time. -/
def run (h : Host) (program : String) (arguments : List String) (limit : Nat) : Outcome :=
  let name := Octets.ofString program
  match findProgram? h h.searchPath name with
  | none => ⟨none, h⟩
  | some path =>
    let start := startAt depth path name (arguments.map Octets.ofString)
    let (status, m) := start.run (h.machine limit)
    let isLate := limit ≤ max m.world.clock m.world.busyUntil
    let printed := m.world.printed.reverse.mergeSort fun a b => decide (a.1 ≤ b.1)
    let output := Octets.toBytes (printed.flatMap Prod.snd)
    ⟨if status.isSome && !isLate then some output else none, m.world.host⟩

end InputDeck.Host
