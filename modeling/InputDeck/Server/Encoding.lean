import InputDeck.Json.Printer
import InputDeck.Server.Lifecycle

/-!
# What a server sends, as JSON
-/

namespace InputDeck.Server

open InputDeck.Editor

def Level.number : Level → Nat
  | error => 1
  | warning => 2
  | info => 3

def messageJson (level : Level) (text : String) : Json :=
  .object [("type", .ofNat level.number), ("message", .string text)]

namespace Notice

def method : Notice → String
  | log _ _ => "window/logMessage"
  | alert _ _ => "window/showMessage"
  | publish _ _ _ => "textDocument/publishDiagnostics"
  | refreshHints => "workspace/inlayHint/refresh"

def params : Notice → Json
  | log level text => messageJson level text
  | alert level text => messageJson level text
  | publish uri diagnostics version =>
    .object ([("uri", .string uri), ("diagnostics", .array (diagnostics.map Diagnostic.toJson))] ++
      Json.member "version" Json.ofInt version)
  | refreshHints => .null

end Notice

def serverVersion : String := "0.3.0"

def fullSync : Nat := 1

def capabilities : Json :=
  .object [
    ("textDocumentSync", .ofNat fullSync),
    ("completionProvider", .object [("resolveProvider", .bool false),
      ("triggerCharacters", .strings ["=", " "])]),
    ("hoverProvider", .bool true),
    ("codeActionProvider", .object [("codeActionKinds", .strings ["quickfix"])]),
    ("inlayHintProvider", .bool true),
    ("executeCommandProvider", .object [("commands", .strings Command.names)])]

def variableJson (c : Catalog) (v : Variable) : Json :=
  .object [("name", .string v.name), ("section", .string v.sectionName),
    ("docUrl", Json.orNull Json.string (c.link? v))]

def Answer.toJson : Answer → Json
  | capabilities => .object [("capabilities", Server.capabilities),
      ("serverInfo", .object [("name", .string "Octopus Language Server"),
        ("version", .string serverVersion)])]
  | nothing => .null
  | hover h => Json.orNull Hover.toJson h
  | completions items => Json.orNull (fun items => .array (items.map Completion.toJson)) items
  | fixes uri items => Json.orNull (fun items => .array (items.map (Fix.toJson · uri.text))) items
  | hints items => Json.orNull (fun items => .array (items.map Hint.toJson)) items
  | version v => .object [("version", .string v)]
  | installed v => .object [("detected", Json.orNull Json.string v)]
  | detection d => .object [("detected", Json.orNull Json.string d.version),
      ("switched", .bool d.switched)]
  | hintsEnabled enabled => .object [("enabled", .bool enabled)]
  | listing c => .array (c.toList.map (variableJson c))

namespace Refusal

def code : Refusal → Int
  | notInitialized => -32002
  | invalidRequest => -32600
  | unknownMethod _ => -32601
  | declinedMethod => -32601
  | _ => -32602

def message : Refusal → String
  | notInitialized => "Server not initialized"
  | invalidRequest => "Invalid request"
  | unknownMethod _ => "Method not found"
  | declinedMethod => "Method not found"
  | missingParameters => "Missing params field"
  | unexpectedParameters params => "Unexpected params: " ++ params.compact
  | malformedParameters => "<json>"
  | missingVersion => "expected a version argument"
  | failed e => e.message
  | unknownCommand name => "unknown command: " ++ name

def subject? : Refusal → Option String
  | unknownMethod name => some name
  | _ => none

end Refusal

end InputDeck.Server
