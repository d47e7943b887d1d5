import InputDeck.Catalog.Bundled.Release141
import InputDeck.Catalog.Bundled.Release162
import InputDeck.Catalog.Data
import InputDeck.Error
import InputDeck.Settings.Basic

/-!
# Loading catalogs

A release is looked up in the data folder first and then among the bundled ones.
-/

namespace InputDeck.Catalog

open InputDeck.Text

def bundled141 : Catalog :=
  ofVariables "14.1" release141

def bundled162 : Catalog :=
  ofVariables "16.2" release162

def bundled (version : String) : Except Error Catalog :=
  match version with
  | "14.1" => .ok bundled141
  | "16.2" => .ok bundled162
  | _ => .error (.catalog version .notBundled)

def ofFile (h : Host) (version : String) (file : Path) : Except Error Catalog :=
  match h.readText file with
  | .error fault => .error (.catalog version (.unreadable file fault))
  | .ok text =>
    match read? version text with
    | some c => .ok c
    | none => .error (.catalog version .malformed)

/-- The catalog of a release; a file in the data folder goes before the bundled data. -/
def load (h : Host) (version : String) (folder : Option Path) : Except Error Catalog :=
  match folder with
  | none => bundled version
  | some folder =>
    let file := folder.join (dataFileName version)
    if h.isFile file then ofFile h version file else bundled version

/-- The catalog of a release, or else the one of the default release. -/
def loadWithFallback (h : Host) (version : String) (folder : Option Path) : Except Error Catalog :=
  match load h version folder with
  | .ok c => .ok c
  | .error e =>
    if version == defaultVersion then .error e
    else match load h defaultVersion folder with
      | .ok c => .ok c
      | .error _ => .error (.catalog version .noFallback)

/-- The version that a file name stands for, if it is the name of a data file. -/
def versionOfName? (name : String) : Option String :=
  ((afterLead? "varinfo-".toList name.toList).bind (beforeTail? ".json".toList)).map String.ofList

/-- The versions of the data files in a folder; there are none if it cannot be listed. -/
def versionsIn (h : Host) : Option Path → List String
  | none => []
  | some folder =>
    match h.names folder with
    | .ok names => names.filterMap versionOfName?
    | .error _ => []

/-- The bundled versions and those of the data folder, in order and each once. -/
def availableVersions (h : Host) (folder : Option Path) : List String :=
  (Dictionary.ofList ((bundledVersions ++ versionsIn h folder).map (·, ()))).keys

end InputDeck.Catalog
