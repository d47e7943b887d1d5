import InputDeck.Catalog.Load
import InputDeck.Editor.Completion
import InputDeck.Editor.Fix
import InputDeck.Editor.Hint
import InputDeck.Editor.Hover
import InputDeck.Server.Notice
import InputDeck.Settings.Client
import InputDeck.Uri.Reader
import InputDeck.Version.Detection

/-!
# Sessions

The state of a server between two messages, and what each message does to it. A message that
concerns the catalog may look at the host, which can differ from one message to the next.

The catalog and the version in the settings always change together.
-/

namespace InputDeck.Server

open InputDeck.Editor

/-- What a message finds around it: the host, and the version of the installed program. -/
structure Surroundings where
  host : Host
  installed : Option String

inductive Installation where
  | known (version : Option String)
  | probed (probe : Version.Probe)

def Installation.ask (h : Host) : Installation → Option String × Host
  | known version => (version, h)
  | probed probe => probe.ask h

structure Session where
  catalog : Catalog
  settings : Settings
  /-- The open documents by their URI. -/
  documents : Dictionary Document
  roots : List Path
  /-- What the last detection came to. -/
  detected : Option String

/-- The session after a message, what was sent meanwhile, and the result. -/
structure Outcome (α : Type) where
  session : Session
  notices : List Notice
  value : α

namespace Session

def fresh : Session where
  catalog := match Catalog.bundled defaultVersion with
    | .ok c => c
    | .error _ => Catalog.ofVariables defaultVersion []
  settings := .default
  documents := .empty
  roots := []
  detected := none

def document? (s : Session) (uri : Uri) : Option Document :=
  s.documents.get? uri.text

/-! ## Diagnostics -/

def publication (s : Session) (uri : String) (doc : Document) : Notice :=
  .publish uri (doc.diagnostics s.catalog) (some doc.version)

def publications (s : Session) : List Notice :=
  s.documents.entries.map fun (uri, doc) => s.publication uri doc

/-! ## Documents -/

def hold (s : Session) (uri : Uri) (doc : Document) : Outcome Unit :=
  let next := { s with documents := s.documents.insert uri.text doc }
  ⟨next, [next.publication uri.text doc], ()⟩

/-- Each change carries the whole text, so only the last one counts. -/
def change (s : Session) (uri : Uri) (texts : List String) (version : Int) : Outcome Unit :=
  match texts.getLast? with
  | none => ⟨s, [], ()⟩
  | some text =>
    match s.document? uri with
    | some doc => s.hold uri (doc.update text version)
    | none => s.hold uri ⟨text, version⟩

def close (s : Session) (uri : Uri) : Outcome Unit :=
  ⟨{ s with documents := s.documents.erase uri.text }, [.publish uri.text [] none], ()⟩

/-! ## Catalog and settings -/

def adopt (s : Session) (c : Catalog) (version : String) : Session :=
  { s with catalog := c, settings := { s.settings with version } }

def switch (s : Session) (h : Host) (version : String) : Outcome (Except Error Unit) :=
  match Catalog.load h version s.settings.dataFolder with
  | .error e => ⟨s, [.alert .error ("Failed to switch version: " ++ e.message)], .error e⟩
  | .ok c =>
    let next := s.adopt c version
    let count := toString c.size
    ⟨next,
     .log .info ("Switched to Octopus version " ++ version ++ " (" ++ count ++ " variables)") ::
       next.publications ++ [.refreshHints],
     .ok ()⟩

/-- Takes over new settings. If their catalog cannot be loaded, the one in use stays and only its
version is kept from the old settings. -/
def apply (s : Session) (h : Host) (settings : Settings) : Outcome Unit :=
  let taken := { s with settings }
  if settings.version = s.settings.version ∧ settings.sameFolder s.settings then
    ⟨taken, [.refreshHints], ()⟩
  else
    let switched := taken.switch h settings.version
    match switched.value with
    | .ok () => ⟨switched.session, switched.notices, ()⟩
    | .error _ =>
      ⟨{ switched.session with settings := { settings with version := s.catalog.version } },
       switched.notices, ()⟩

/-- Takes over settings that a client sends, unless they are faulty. -/
def configure (s : Session) (h : Host) (value : Json) : Outcome Unit :=
  match Settings.ofJson value with
  | .ok settings => s.apply h settings
  | .error e => ⟨s, [.log .warning ("Invalid settings: " ++ e.message)], ()⟩

structure Setup where
  options : Option Json
  folders : List Uri
  root : Option Uri

/-- The folders of the workspace, or else its root. -/
def Setup.roots (setup : Setup) : List Path :=
  match setup.folders.filterMap Uri.filePath? with
  | [] => (setup.root.bind Uri.filePath?).toList
  | folders => folders

/-- The settings that a client starts with; faulty ones count as none. -/
def Setup.settings (setup : Setup) : Settings :=
  match setup.options.map Settings.ofJson with
  | some (.ok settings) => settings
  | _ => .default

def start (s : Session) (h : Host) (setup : Setup) : Session :=
  let settings := setup.settings
  let catalog := match Catalog.loadWithFallback h settings.version settings.dataFolder with
    | .ok c => c
    | .error _ => s.catalog
  { s with
    catalog
    settings := { settings with version := catalog.version }
    roots := setup.roots }

def greet (s : Session) : Outcome Unit :=
  ⟨s,
   [.log .info ("Octopus LSP initialized with version " ++ s.catalog.version ++ " (" ++
      toString s.catalog.size ++ " variables)")],
   ()⟩

/-! ## Versions and hints -/

def detectInstalled (s : Session) (around : Surroundings) : Outcome (Option String) :=
  ⟨{ s with detected := around.installed },
   [match around.installed with
    | some version => .log .info ("Detected Octopus " ++ version ++ " from the system")
    | none => .alert .warning "Could not detect Octopus version from system"],
   around.installed⟩

/-- What a detection came to, and whether another catalog is in use now. -/
structure Detection where
  version : Option String
  switched : Bool
  deriving DecidableEq, Repr

/-- Looks for the version in use, with the given document as the active one, and switches to it. -/
def autoDetect (s : Session) (around : Surroundings) (active : Option Uri) : Outcome Detection :=
  let document := (active.bind s.document?).map Document.text
  let detected := Version.detect? around.host around.installed document s.roots
  let next := { s with detected }
  match detected with
  | none => ⟨next, [.alert .warning "Could not auto-detect Octopus version"], ⟨none, false⟩⟩
  | some version =>
    if version = s.catalog.version then
      ⟨next, [.log .info ("Already using detected version: " ++ version)], ⟨detected, false⟩⟩
    else if version ∈ Catalog.availableVersions around.host s.settings.dataFolder then
      let switched := next.switch around.host version
      match switched.value with
      | .ok () => ⟨switched.session, switched.notices, ⟨detected, true⟩⟩
      | .error _ => ⟨switched.session, switched.notices, ⟨detected, false⟩⟩
    else
      ⟨next,
       [.alert .warning ("Detected Octopus " ++ version ++
          ", but no variable information is available for it")],
       ⟨detected, false⟩⟩

def toggleHints (s : Session) : Outcome Bool :=
  let enabled := !s.settings.hints.enabled
  ⟨{ s with settings := { s.settings with hints := { s.settings.hints with enabled } } },
   [.log .info (if enabled then "Inlay hints enabled" else "Inlay hints disabled"), .refreshHints],
   enabled⟩

/-! ## Questions about a document -/

/-- The line that a position is on, and its column there in characters. -/
def place? (s : Session) (uri : Uri) (p : Position) : Option (String × Nat) :=
  ((s.document? uri).bind fun doc => doc.line? p.line).map fun line =>
    (line, Text.charColumn line.toList p.column)

def hoverAt? (s : Session) (uri : Uri) (p : Position) : Option Hover :=
  (s.place? uri p).bind fun (line, column) => hover? s.catalog p.line line column

def completionsAt? (s : Session) (uri : Uri) (p : Position) : Option (List Completion) :=
  (s.place? uri p).map fun (line, column) =>
    completions s.catalog (String.ofList (line.toList.take column))

def fixes? (s : Session) (uri : Uri) (ds : List Diagnostic) : Option (List Fix) :=
  (s.document? uri).map fun doc => fixes s.catalog doc ds

def hints? (s : Session) (uri : Uri) (r : Range) : Option (List Hint) :=
  (s.document? uri).map fun doc =>
    hints s.catalog s.settings.hints doc r.start.line r.stop.line

end Session

end InputDeck.Server
