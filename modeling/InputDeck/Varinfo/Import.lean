import InputDeck.Catalog.Load
import InputDeck.Varinfo

/-!
# Importing variable listings

An import turns a listing into the data file of a release. The data file is read back at once, so
what has been imported can always be loaded.
-/

namespace InputDeck.Varinfo

structure Imported where
  catalog : Catalog
  file : String

/-- A version becomes part of a file name, so it may hold few characters only. -/
def isAcceptableVersion (version : String) : Bool :=
  !version.toList.isEmpty &&
    version.toList.all fun c => c.isAlphanum || c == '.' || c == '-' || c == '_'

/-- The data file of a listing, read back as a catalog. -/
def convert (version : String) (vs : List Variable) : Except Error Imported :=
  let file := Catalog.dataFile vs
  match Catalog.read? version file with
  | some catalog => .ok ⟨catalog, file⟩
  | none => .error (.catalog version .malformed)

def importFile (h : Host) (path : Path) (version : String) : Except Error Imported :=
  if isAcceptableVersion version then
    match h.readText path with
    | .error fault => .error (.host fault)
    | .ok text =>
      match read text with
      | [] => .error (.objection (.noVariables path))
      | vs => convert version vs
  else .error (.objection (.invalidVersion version))

/-- Where the data file goes: to the output file if there is one, else into the data folder, else
into the working folder. -/
def targetPath (version : String) (output folder : Option Path) : Path :=
  match output, folder with
  | some path, _ => path
  | none, some folder => folder.join (Catalog.dataFileName version)
  | none, none => ⟨Catalog.dataFileName version⟩

end InputDeck.Varinfo
