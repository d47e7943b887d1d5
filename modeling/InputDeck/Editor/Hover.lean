import InputDeck.Catalog.Basic
import InputDeck.Editor.Position
import InputDeck.Text.Word

/-!
# Hovering over a name

Resting on the name of a known variable shows what is documented about it.
-/

namespace InputDeck

open InputDeck.Text

namespace Catalog

def paragraphs (c : Catalog) (v : Variable) : List String :=
  ["## " ++ v.name, "**Version**: Octopus " ++ c.version] ++
  (match c.link? v with
    | some url => ["[View Online Documentation](" ++ url ++ ")", "---"]
    | none => []) ++
  ["**Type**: " ++ v.kind.name] ++
  (if v.defaults.isEmpty then []
    else ["**Default Value**: `" ++ ", ".intercalate v.defaults ++ "`"]) ++
  (if v.sectionName.isEmpty then [] else ["**Section**: " ++ v.sectionName]) ++
  (if v.description.isEmpty then [] else ["**Description**: " ++ v.descriptionText]) ++
  if v.options.isEmpty then []
  else
    ["**Valid Values**:",
     "\n".intercalate (v.options.map fun o => "- `" ++ o.name ++ "` (" ++ o.value ++ ")")]

def markdown (c : Catalog) (v : Variable) : String :=
  "\n\n".intercalate (c.paragraphs v) ++ "\n\n"

end Catalog

namespace Editor

structure Hover where
  text : String
  range : Range
  deriving DecidableEq, Repr

/-- What to show for the word at a character column, if it names a known variable. -/
def hover? (c : Catalog) (index : Nat) (line : String) (column : Nat) : Option Hover :=
  match wordAt? line column with
  | none => none
  | some word =>
    (c.get? word.text).map fun v => ⟨c.markdown v, .on index line word.start word.stop⟩

end Editor

end InputDeck
