import InputDeck.Editor.Completion
import InputDeck.Editor.Fix
import InputDeck.Editor.Hint
import InputDeck.Editor.Hover
import InputDeck.Json.Shape
import InputDeck.Uri.Reader

/-!
# Editor features in the language server protocol

How positions, diagnostics and the answers to an editor are written as JSON, and how those that an
editor sends are read.
-/

namespace InputDeck.Editor

/-- Lines and columns are numbers of 32 bits. -/
def Position.toJson (p : Position) : Json :=
  .object [("line", .ofNat (p.line % Json.halfWordLimit)),
    ("character", .ofNat (p.column % Json.halfWordLimit))]

def Position.ofJson? (value : Json) : Option Position := do
  let v ← value.record? ["line", "character"]
  let line ← v.needed? "line" Json.unsigned?
  let column ← v.needed? "character" Json.unsigned?
  return ⟨line, column⟩

def Range.toJson (r : Range) : Json :=
  .object [("start", r.start.toJson), ("end", r.stop.toJson)]

def Range.ofJson? (value : Json) : Option Range := do
  let v ← value.record? ["start", "end"]
  let start ← v.needed? "start" Position.ofJson?
  let stop ← v.needed? "end" Position.ofJson?
  return ⟨start, stop⟩

def uriText? (v : Json) : Option String :=
  (v.string?.bind Uri.parse?).map Uri.text

def Code.toJson : Code → Json
  | number n => .ofInt n
  | text s => .string s

def Code.ofJson? (v : Json) : Option Code :=
  (v.signed?.map number).or (v.string?.map text)

def Related.toJson (r : Related) : Json :=
  .object [("location", .object [("uri", .string r.uri), ("range", r.range.toJson)]),
    ("message", .string r.message)]

def Related.ofJson? (value : Json) : Option Related := do
  let v ← value.record? ["location", "message"]
  let location ← v.needed? "location" (Json.record? ["uri", "range"])
  let uri ← location.needed? "uri" uriText?
  let range ← location.needed? "range" Range.ofJson?
  let message ← v.needed? "message" Json.string?
  return ⟨uri, range, message⟩

namespace Diagnostic

def fields : List String :=
  ["range", "severity", "code", "codeDescription", "source", "message", "relatedInformation",
   "tags", "data"]

def toJson (d : Diagnostic) : Json :=
  .object ([("range", d.range.toJson)] ++
    Json.member "severity" Json.ofInt d.severity ++
    Json.member "code" Code.toJson d.code ++
    Json.member "codeDescription" (fun link => .object [("href", .string link)]) d.codeLink ++
    Json.member "source" Json.string d.source ++
    [("message", .string d.message)] ++
    Json.member "relatedInformation" (fun related => .array (related.map Related.toJson))
      d.related ++
    Json.member "tags" (fun tags => .array (tags.map Json.ofInt)) d.tags ++
    Json.member "data" id d.data)

def ofJson? (value : Json) : Option Diagnostic := do
  let v ← value.record? fields
  let range ← v.needed? "range" Range.ofJson?
  let severity ← v.optional? "severity" Json.signed?
  let code ← v.optional? "code" Code.ofJson?
  let codeLink ← v.optional? "codeDescription" fun d =>
    (d.record? ["href"]).bind fun d => d.needed? "href" uriText?
  let source ← v.optional? "source" Json.string?
  let message ← v.needed? "message" Json.string?
  let related ← v.optional? "relatedInformation" (Json.list? Related.ofJson?)
  let tags ← v.optional? "tags" (Json.list? Json.signed?)
  let data ← v.optional? "data" some
  return { range, severity, code, codeLink, source, message, related, tags, data }

end Diagnostic

def markdownJson (text : String) : Json :=
  .object [("kind", .string "markdown"), ("value", .string text)]

def Hover.toJson (h : Hover) : Json :=
  .object [("contents", markdownJson h.text), ("range", h.range.toJson)]

def CompletionKind.number : CompletionKind → Nat
  | .variable => 6
  | .value => 12

def Completion.toJson (c : Completion) : Json :=
  .object [("label", .string c.label), ("kind", .ofNat c.kind.number), ("detail", .string c.detail),
    ("documentation", markdownJson c.documentation), ("insertText", .string c.insertion)]

def Edit.toJson (e : Edit) : Json :=
  .object [("range", e.range.toJson), ("newText", .string e.text)]

def Fix.toJson (f : Fix) (uri : String) : Json :=
  .object [("title", .string f.title), ("kind", .string "quickfix"),
    ("diagnostics", .array [f.diagnostic.toJson]),
    ("edit", .object [("changes", .object [(uri, .array [f.edit.toJson])])])]

/-- The protocol knows hints about types and about parameters; these count as the former. -/
def hintKind : Nat := 1

def Hint.toJson (h : Hint) : Json :=
  .object [("position", h.position.toJson), ("label", .string h.label), ("kind", .ofNat hintKind),
    ("tooltip", .string h.tooltip), ("paddingLeft", .bool false), ("paddingRight", .bool false)]

end InputDeck.Editor
