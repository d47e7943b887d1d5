import InputDeck.Dictionary
import InputDeck.Error
import InputDeck.Settings.Basic

/-!
# Settings sent by a client

An editor sends settings as JSON, bare or under the member `octopus`. A structure may also be
written as an array of its fields. Members are looked at in the order of their keys, and the first
fault found is the one reported.
-/

namespace InputDeck

namespace Json

def text (expected : String) : Json → Except SettingsFault String
  | string s => .ok s
  | found => .error (.wrongType found expected)

def flag : Json → Except SettingsFault Bool
  | bool b => .ok b
  | found => .error (.wrongType found "a boolean")

end Json

namespace HintSettings

def setEnabled (s : HintSettings) (v : Json) : Except SettingsFault HintSettings :=
  v.flag.map fun b => { s with enabled := b }

def setShowBuiltin (s : HintSettings) (v : Json) : Except SettingsFault HintSettings :=
  v.flag.map fun b => { s with showBuiltin := b }

def setShowUser (s : HintSettings) (v : Json) : Except SettingsFault HintSettings :=
  v.flag.map fun b => { s with showUser := b }

/-- Takes one member of an object into account; an unknown one changes nothing. -/
def setMember (s : HintSettings) : String × Json → Except SettingsFault HintSettings
  | ("enabled", v) => s.setEnabled v
  | ("showBuiltin", v) => s.setShowBuiltin v
  | ("showUser", v) => s.setShowUser v
  | _ => .ok s

def ofJson : Json → Except SettingsFault HintSettings
  | .object members => (Dictionary.ofList members).entries.foldlM setMember default
  | .array items =>
    match ([setEnabled, setShowBuiltin, setShowUser].zip items).foldlM
        (fun s (set, v) => set s v) default with
    | .error fault => .error fault
    | .ok s => if 3 < items.length then .error (.tooLong items.length) else .ok s
  | found => .error (.wrongType found "struct InlayHintSettings")

end HintSettings

namespace Settings

def setVersion (s : Settings) (v : Json) : Except SettingsFault Settings :=
  (v.text "a string").map fun version => { s with version }

def setDataFolder (s : Settings) : Json → Except SettingsFault Settings
  | .null => .ok { s with dataFolder := none }
  | v => (v.text "path string").map fun folder => { s with dataFolder := some ⟨folder⟩ }

def setHints (s : Settings) (v : Json) : Except SettingsFault Settings :=
  (HintSettings.ofJson v).map fun hints => { s with hints }

def setMember (s : Settings) : String × Json → Except SettingsFault Settings
  | ("version", v) => s.setVersion v
  | ("dataDir", v) => s.setDataFolder v
  | ("inlayHints", v) => s.setHints v
  | _ => .ok s

def ofBareJson : Json → Except SettingsFault Settings
  | .null => .ok default
  | .object members => (Dictionary.ofList members).entries.foldlM setMember default
  | .array items =>
    match ([setVersion, setDataFolder, setHints].zip items).foldlM
        (fun s (set, v) => set s v) default with
    | .error fault => .error fault
    | .ok s => if 3 < items.length then .error (.tooLong items.length) else .ok s
  | found => .error (.wrongType found "struct Settings")

/-- The settings under the member `octopus` if there is one, else the value itself. -/
def bareJson (v : Json) : Json :=
  (v.get? "octopus").getD v

def ofJson (v : Json) : Except Error Settings :=
  match ofBareJson (bareJson v) with
  | .ok s => .ok s
  | .error fault => .error (.settings fault)

end Settings

end InputDeck
