import InputDeck.Catalog.Load
import InputDeck.Settings.File

/-!
# Choosing a catalog

A command may be told which release to use and where further catalogs lie. What it is not told comes
from the settings of the project.
-/

namespace InputDeck.Catalog

open InputDeck.Text

structure Choice where
  version : Option String
  dataFolder : Option Path
  deriving DecidableEq, Repr

namespace Choice

/-- The release and the data folder in force for input below `start`. -/
def resolve (choice : Choice) (h : Host) (start : Path) : Except Error (String × Option Path) :=
  (Settings.discover h start).map fun found =>
    let settings := found.getD .default
    (choice.version.getD settings.version, choice.dataFolder.or settings.dataFolder)

def load (choice : Choice) (h : Host) (start : Path) : Except Error Catalog :=
  match choice.resolve h start with
  | .error e => .error e
  | .ok (version, folder) => Catalog.load h version folder

def availableVersions (choice : Choice) (h : Host) (start : Path) : Except Error (List String) :=
  (choice.resolve h start).map fun (_, folder) => Catalog.availableVersions h folder

end Choice

def mentions (v : Variable) (text : String) : Bool :=
  let needle := lowercased text
  holds needle (lowercased v.name) || holds needle (lowercased v.sectionName)

def filtered (c : Catalog) (text : Option String) : List Variable :=
  match text with
  | none => c.toList
  | some text => c.toList.filter (mentions · text)

end InputDeck.Catalog
