import InputDeck.Path
import InputDeck.Text.Utf8

/-!
# The host

The part of the world that the commands see: a tree of folders and files, the working folder, and
the folders that are searched for programs. It is a plain value, so every command is a function of
it, and a command that writes returns a new one.
-/

namespace InputDeck

open InputDeck.Text

namespace Host

inductive Fault where
  | notFound
  | fileExists
  | notFolder
  | isFolder
  | notText
  deriving DecidableEq, Repr

def Fault.message : Fault → String
  | notFound => "No such file or directory (os error 2)"
  | fileExists => "File exists (os error 17)"
  | notFolder => "Not a directory (os error 20)"
  | isFolder => "Is a directory (os error 21)"
  | notText => "stream did not contain valid UTF-8"

inductive Content where
  | text (value : String)
  | bytes (value : List UInt8)
  deriving DecidableEq, Repr

def Content.text? : Content → Option String
  | text s => some s
  | bytes b => Utf8.decode? b

inductive Entry where
  | folder
  | file (content : Content) (executable : Bool)
  deriving DecidableEq, Repr

/-- The parts of an absolute path without dots. -/
abbrev Location := List String

end Host

/-- A snapshot of the host. The root is always a folder and has no entry of its own. -/
structure Host where
  entries : List (Host.Location × Host.Entry)
  workingFolder : Host.Location
  searchFolders : List Path

namespace Host

def find? (h : Host) (location : Location) : Option Entry :=
  if location.isEmpty then some .folder else h.entries.lookup location

def put (h : Host) (location : Location) (entry : Entry) : Host :=
  { h with entries := (location, entry) :: h.entries.filter (·.1 != location) }

def blank (workingFolder : Location) (searchFolders : List Path) : Host :=
  ⟨[], workingFolder, searchFolders⟩

/-- Makes sure that a location and those above it are folders, where there is no entry yet. -/
def provideFolders (h : Host) (location : Location) : Host :=
  (List.range location.length).foldl (fun h n =>
    let above := location.take (n + 1)
    match h.find? above with
    | some _ => h
    | none => h.put above .folder) h

def provide (h : Host) (location : Location) (entry : Entry) : Host :=
  (h.provideFolders location.dropLast).put location entry

/-- Follows the parts of a path from a location on. Every part but the last has to lead to a folder;
an empty part or a dot stays where it is. -/
def walk (h : Host) : Location → List String → Except Fault Location
  | location, [] => .ok location
  | location, part :: parts =>
    match h.find? location with
    | none => .error .notFound
    | some (.file _ _) => .error .notFolder
    | some .folder =>
      if part == "" || part == "." then h.walk location parts
      else if part == ".." then h.walk location.dropLast parts
      else h.walk (location ++ [part]) parts

def start (h : Host) (p : Path) : Location :=
  if p.isAbsolute then [] else h.workingFolder

/-- Where a path leads; there need not be an entry. -/
def locate (h : Host) (p : Path) : Except Fault Location :=
  if p.isEmpty then .error .notFound else h.walk (h.start p) p.parts

def entry (h : Host) (p : Path) : Except Fault Entry :=
  match h.locate p with
  | .error fault => .error fault
  | .ok location =>
    match h.find? location with
    | none => .error .notFound
    | some e => .ok e

def isFile (h : Host) (p : Path) : Bool :=
  match h.entry p with
  | .ok (.file _ _) => true
  | _ => false

def isFolder (h : Host) (p : Path) : Bool :=
  match h.entry p with
  | .ok .folder => true
  | _ => false

def holds (h : Host) (p : Path) : Bool :=
  match h.entry p with
  | .ok _ => true
  | .error _ => false

def readText (h : Host) (p : Path) : Except Fault String :=
  match h.entry p with
  | .error fault => .error fault
  | .ok .folder => .error .isFolder
  | .ok (.file content _) =>
    match content.text? with
    | some s => .ok s
    | none => .error .notText

def names (h : Host) (p : Path) : Except Fault (List String) :=
  match h.locate p with
  | .error fault => .error fault
  | .ok location =>
    match h.find? location with
    | none => .error .notFound
    | some (.file _ _) => .error .notFolder
    | some .folder =>
      .ok (h.entries.filterMap fun (other, _) =>
        if other.dropLast == location then other.getLast? else none)

/-- Writes a text file in place of any file at the path. A path that ends with a slash names a
folder. -/
def writeText (h : Host) (p : Path) (text : String) : Except Fault Host :=
  let named := (p.chars.reverse.dropWhile (· == '/')).reverse
  let toFolder := p.chars.getLast? == some '/' && !named.isEmpty
  match h.locate (if toFolder then ⟨String.ofList named⟩ else p) with
  | .error fault => .error fault
  | .ok location =>
    if toFolder then .error .isFolder
    else match h.find? location with
      | some .folder => .error .isFolder
      | some (.file _ executable) => .ok (h.put location (.file (.text text) executable))
      | none => .ok (h.put location (.file (.text text) false))

def makeFolder (h : Host) (p : Path) : Except Fault Host :=
  match h.locate p with
  | .error fault => .error fault
  | .ok location =>
    match h.find? location with
    | some _ => .error .fileExists
    | none => .ok (h.put location .folder)

/-- Makes the first of the given paths a folder, and its parents, which come after it, as needed. -/
def makeLineage (h : Host) : List Path → Except Fault Host
  | [] => .error .notFound
  | p :: parents =>
    if p.isEmpty then .ok h
    else match h.makeFolder p with
      | .ok made => .ok made
      | .error .notFound =>
        match h.makeLineage parents with
        | .error fault => .error fault
        | .ok base =>
          match base.makeFolder p with
          | .ok made => .ok made
          | .error fault => if base.isFolder p then .ok base else .error fault
      | .error fault => if h.isFolder p then .ok h else .error fault

def makeFolders (h : Host) (p : Path) : Except Fault Host :=
  h.makeLineage p.ancestors

def textAt? (h : Host) (location : Location) : Option String :=
  match h.find? location with
  | some (.file content _) => content.text?
  | _ => none

/-- The text files that are new or other than before, with what they hold now. -/
def changes (before after : Host) : List (Location × String) :=
  after.entries.filterMap fun (location, entry) =>
    match entry with
    | .file (.text text) _ =>
      if before.textAt? location = some text then none else some (location, text)
    | _ => none

def currentFolder (h : Host) : Path :=
  ⟨"/" ++ "/".intercalate h.workingFolder⟩

end Host

end InputDeck
