import InputDeck.Path

/-!
# Settings

Which release to check against, where further catalogs lie, and which hints an editor shows.
-/

namespace InputDeck

def defaultVersion : String := "14.1"

structure HintSettings where
  enabled : Bool
  showBuiltin : Bool
  showUser : Bool
  deriving DecidableEq, Repr

def HintSettings.default : HintSettings :=
  ⟨true, true, true⟩

structure Settings where
  version : String
  dataFolder : Option Path
  hints : HintSettings
  deriving DecidableEq, Repr

def Settings.default : Settings :=
  ⟨defaultVersion, none, .default⟩

def Settings.sameFolder (s t : Settings) : Bool :=
  match s.dataFolder, t.dataFolder with
  | none, none => true
  | some p, some q => p.agrees q
  | _, _ => false

end InputDeck
