import InputDeck.Dictionary
import InputDeck.Documentation
import InputDeck.Verdict

/-!
# Catalogs

The documented variables of one release, found by name without regard to letter case.
-/

namespace InputDeck

open InputDeck.Text

/-- The variables of a release under their names in lower case. -/
structure Catalog where
  version : String
  table : Dictionary Variable

namespace Catalog

/-- A catalog from its variables; of two with the same name the later one stays. -/
def ofVariables (version : String) (vs : List Variable) : Catalog :=
  ⟨version, .ofList (vs.map fun v => (v.key, v))⟩

def get? (c : Catalog) (name : String) : Option Variable :=
  c.table.get? (lowercased name)

/-- All variables in the order of their names in lower case. -/
def toList (c : Catalog) : List Variable :=
  c.table.values

def size (c : Catalog) : Nat :=
  c.table.size

/-- The link that comes with the data, or else the one made from section and name. -/
def link? (c : Catalog) (v : Variable) : Option String :=
  v.link.or (Documentation.link? c.version v.sectionName v.name)

def verdict? (c : Catalog) (name raw : String) : Option Verdict :=
  (c.get? name).map (·.verdict raw)

end Catalog

end InputDeck
