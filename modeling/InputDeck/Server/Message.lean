import InputDeck.Editor.Encoding
import InputDeck.Server.Session

/-!
# Messages to a server

A message names a method and may carry parameters. Methods are either requests, which are answered,
or notifications, which are not.
-/

namespace InputDeck.Server

open InputDeck.Editor

inductive Command where
  | switchVersion (version : Option String)
  | detectSystemVersion
  | autoDetectVersion (active : Option Uri)
  | toggleInlayHints
  | showVariables
  | unknown (name : String)

namespace Command

def names : List String :=
  ["octopus.switchVersion", "octopus.detectSystemVersion", "octopus.autoDetectVersion",
   "octopus.toggleInlayHints", "octopus.showVariables"]

/-- The command of a name with its arguments; those that make no sense count as missing. -/
def ofName (name : String) (arguments : List Json) : Command :=
  let first := arguments.head?.bind Json.string?
  match name with
  | "octopus.switchVersion" => switchVersion first
  | "octopus.detectSystemVersion" => detectSystemVersion
  | "octopus.autoDetectVersion" => autoDetectVersion (first.bind Uri.parse?)
  | "octopus.toggleInlayHints" => toggleInlayHints
  | "octopus.showVariables" => showVariables
  | _ => unknown name

end Command

inductive Request where
  | hover (uri : Uri) (position : Position)
  | completion (uri : Uri) (position : Position)
  | fixes (uri : Uri) (diagnostics : List Diagnostic)
  | hints (uri : Uri) (range : Range)
  | command (command : Command)

inductive Notification where
  | initialized
  | opened (uri : Uri) (text : String) (version : Int)
  | changed (uri : Uri) (texts : List String) (version : Int)
  | closed (uri : Uri)
  | configured (value : Json)

/-! ## Methods -/

def answeredMethods : List String :=
  ["textDocument/hover", "textDocument/completion", "textDocument/codeAction",
   "textDocument/inlayHint", "workspace/executeCommand"]

/-- The requests that the protocol has but this server does not answer. -/
def declinedMethods : List String :=
  ["textDocument/willSaveWaitUntil", "textDocument/declaration", "textDocument/definition",
   "textDocument/typeDefinition", "textDocument/implementation", "textDocument/references",
   "textDocument/prepareCallHierarchy", "callHierarchy/incomingCalls",
   "callHierarchy/outgoingCalls", "textDocument/prepareTypeHierarchy", "typeHierarchy/supertypes",
   "typeHierarchy/subtypes", "textDocument/documentHighlight", "textDocument/documentLink",
   "documentLink/resolve", "textDocument/codeLens", "codeLens/resolve",
   "textDocument/foldingRange", "textDocument/selectionRange", "textDocument/documentSymbol",
   "textDocument/semanticTokens/full", "textDocument/semanticTokens/full/delta",
   "textDocument/semanticTokens/range", "textDocument/inlineValue", "inlayHint/resolve",
   "textDocument/moniker", "completionItem/resolve", "textDocument/diagnostic",
   "workspace/diagnostic", "textDocument/signatureHelp", "codeAction/resolve",
   "textDocument/documentColor", "textDocument/colorPresentation", "textDocument/formatting",
   "textDocument/rangeFormatting", "textDocument/onTypeFormatting", "textDocument/rename",
   "textDocument/prepareRename", "textDocument/linkedEditingRange", "workspace/symbol",
   "workspaceSymbol/resolve", "workspace/willCreateFiles", "workspace/willRenameFiles",
   "workspace/willDeleteFiles"]

def heededMethods : List String :=
  ["initialized", "textDocument/didOpen", "textDocument/didChange", "textDocument/didClose",
   "workspace/didChangeConfiguration"]

def ignoredMethods : List String :=
  ["textDocument/willSave", "textDocument/didSave", "workspace/didChangeWorkspaceFolders",
   "workspace/didCreateFiles", "workspace/didRenameFiles", "workspace/didDeleteFiles",
   "workspace/didChangeWatchedFiles"]

/-- The notification that withdraws a request. It may come at any time. -/
def cancelMethod : String := "$/cancelRequest"

/-! ## Parameters -/

def uri? (v : Json) : Option Uri :=
  v.string?.bind Uri.parse?

def documentUri? (params : Json) : Option Uri := do
  let document ← params.needed? "textDocument" (Json.record? ["uri"])
  document.needed? "uri" uri?

def place? (params : Json) : Option (Uri × Position) := do
  let uri ← documentUri? params
  let position ← params.needed? "position" Position.ofJson?
  return (uri, position)

def folderUri? (value : Json) : Option Uri := do
  let folder ← value.record? ["uri", "name"]
  let uri ← folder.needed? "uri" uri?
  let _ ← folder.needed? "name" Json.string?
  return uri

def setup? (value : Json) : Option Session.Setup := do
  let params ← value.record? ["processId", "rootPath", "rootUri", "initializationOptions",
    "capabilities", "trace", "workspaceFolders", "clientInfo", "locale"]
  let _ ← params.needed? "capabilities" Json.object?
  let options ← params.optional? "initializationOptions" some
  let folders ← params.optional? "workspaceFolders" (Json.list? folderUri?)
  let root ← params.optional? "rootUri" uri?
  return ⟨options, folders.getD [], root⟩

def command? (params : Json) : Option Command := do
  let name ← params.needed? "command" Json.string?
  match params.get? "arguments" with
  | none => return .ofName name []
  | some arguments => arguments.array?.map (Command.ofName name)

def Request.ofJson? (method : String) (params : Json) : Option Request :=
  match method with
  | "textDocument/hover" => (place? params).map fun (uri, position) => hover uri position
  | "textDocument/completion" => (place? params).map fun (uri, position) => completion uri position
  | "textDocument/codeAction" => do
    let uri ← documentUri? params
    let _ ← params.needed? "range" Range.ofJson?
    let context ← params.needed? "context" (Json.record? ["diagnostics", "only", "triggerKind"])
    let diagnostics ← context.needed? "diagnostics" (Json.list? Diagnostic.ofJson?)
    return fixes uri diagnostics
  | "textDocument/inlayHint" => do
    let uri ← documentUri? params
    let range ← params.needed? "range" Range.ofJson?
    return hints uri range
  | "workspace/executeCommand" => (command? params).map command
  | _ => none

/-- The text that a change leaves. The range that it gives, if any, has to be one, but has no
meaning, since every change carries the whole text. -/
def changedText? (value : Json) : Option String := do
  let change ← value.record? ["range", "rangeLength", "text"]
  let _ ← change.optional? "range" Range.ofJson?
  let _ ← change.optional? "rangeLength" Json.unsigned?
  change.needed? "text" Json.string?

def versionedUri? (value : Json) : Option (Uri × Int) := do
  let document ← value.record? ["uri", "version"]
  let uri ← document.needed? "uri" uri?
  let version ← document.needed? "version" Json.signed?
  return (uri, version)

def Notification.ofJson? (method : String) (params : Json) : Option Notification :=
  match method with
  | "initialized" => (params.record? []).map fun _ => initialized
  | "textDocument/didOpen" => do
    let params ← params.record? ["textDocument"]
    let document ← params.needed? "textDocument"
      (Json.record? ["uri", "languageId", "version", "text"])
    let uri ← document.needed? "uri" uri?
    let _ ← document.needed? "languageId" Json.string?
    let version ← document.needed? "version" Json.signed?
    let text ← document.needed? "text" Json.string?
    return opened uri text version
  | "textDocument/didChange" => do
    let params ← params.record? ["textDocument", "contentChanges"]
    let (uri, version) ← params.needed? "textDocument" versionedUri?
    let texts ← params.needed? "contentChanges" (Json.list? changedText?)
    return changed uri texts version
  | "textDocument/didClose" => do
    let params ← params.record? ["textDocument"]
    return closed (← documentUri? params)
  | "workspace/didChangeConfiguration" => do
    let params ← params.record? ["settings"]
    return configured (← params.get? "settings")
  | _ => none

end InputDeck.Server
