import InputDeck.Proofs.Server.Coherence

/-!
# Settings whose catalog cannot be loaded

New settings are written before their catalog is loaded, and if that fails only the version is put
right again. So the catalog stays and the version with it, but the data folder becomes the one that
was sent, and later requests for a version look there. The choice of a catalog is kept as a whole
exactly if the settings that failed name the data folder in force.
-/

namespace InputDeck

theorem Catalog.load_of_not_isFile {h : Host} {version : String} {folder : Path}
    (hfile : h.isFile (folder.join (dataFileName version)) = false) :
    load h version (some folder) = bundled version := by
  rw [load, hfile]
  rfl

namespace Server

namespace Session

/-- What a session chooses its catalogs by, and the catalog that it has chosen. -/
def SameChoice (s t : Session) : Prop :=
  s.catalog = t.catalog ∧ s.settings.version = t.settings.version ∧
    s.settings.dataFolder = t.settings.dataFolder

variable {s : Session} {h : Host} {settings : Settings} {e : Error}

theorem session_apply_of_error (hs : s.Coherent)
    (hload : Catalog.load h settings.version settings.dataFolder = .error e) :
    (s.apply h settings).session =
      { s with settings := { settings with version := s.settings.version } } := by
  unfold apply
  dsimp only
  split
  · next hsame => rw [← hsame.1]
  · rw [switch_of_error hload]
    dsimp only
    -- The version is put back from the catalog, which is that of the settings before.
    rw [hs]

theorem published_apply_of_error
    (hload : Catalog.load h settings.version settings.dataFolder = .error e) :
    published (s.apply h settings).notices = [] := by
  unfold apply
  dsimp only
  split
  · rfl
  · rw [switch_of_error hload]
    rfl

theorem configure_of_ok {value : Json} (hvalue : Settings.ofJson value = .ok settings) :
    s.configure h value = s.apply h settings := by
  rw [configure, hvalue]

end Session

/-- A request for a version succeeds exactly if its catalog can be loaded with the data folder in
the settings. -/
theorem response_switchVersion_iff {s : Service} {m : Incoming} {version : String}
    (hm : s.asked? m = some (.command (.switchVersion (some version)))) (around : Surroundings) :
    (s.receive around m).response = .answer (.version version) ↔
      ∃ c, Catalog.load around.host version s.session.settings.dataFolder = .ok c := by
  have hanswer : s.session.answer around (.command (.switchVersion (some version))) =
      s.session.obey around (.switchVersion (some version)) := rfl
  rw [Service.receive_of_asked? around hm, hanswer, Session.obey]
  cases hload : Catalog.load around.host version s.session.settings.dataFolder with
  | error e =>
    rw [Session.switch_of_error hload]
    simp
  | ok c =>
    have hvalue : (s.session.switch around.host version).value = .ok () := by
      rw [Session.switch, hload]
    dsimp only
    rw [hvalue]
    simp

/-- In every state that a server can get into, settings whose catalog cannot be loaded change the
settings and nothing else. The version in force stays, but the data folder and the hints are those
that were sent. So the choice of a catalog is kept exactly if the data folder is the one in force,
and the next request for a version succeeds or fails by the data folder that was sent. -/
theorem failed_configuration_takes_folder (log : List Event) :
    let s := (transcript log).service
    ∀ around m value settings e, s.heard? m = some (.configured value) →
      Settings.ofJson value = .ok settings →
      Catalog.load around.host settings.version settings.dataFolder = .error e →
      let next := (s.receive around m).service
      next = { s with session := { s.session with
        settings := ⟨s.session.settings.version, settings.dataFolder, settings.hints⟩ } } ∧
      published (s.receive around m).notices = [] ∧
      (next.session.SameChoice s.session ↔
        settings.dataFolder = s.session.settings.dataFolder) ∧
      ∀ later ask version, next.asked? ask = some (.command (.switchVersion (some version))) →
        ((next.receive later ask).response = .answer (.version version) ↔
          ∃ c, Catalog.load later.host version settings.dataFolder = .ok c) := by
  intro s around m value settings e hm hvalue hload next
  have hheed : s.session.heed around (.configured value) = s.session.apply around.host settings :=
    Session.configure_of_ok hvalue
  have hnext : next = { s with session := { s.session with
      settings := ⟨s.session.settings.version, settings.dataFolder, settings.hints⟩ } } := by
    have hsession := Session.session_apply_of_error (coherent_transcript log) hload
    change (s.receive around m).service = _
    rw [Service.receive_of_heard? around hm, hheed, hsession]
  have hfolder : next.session.settings.dataFolder = settings.dataFolder := by rw [hnext]
  refine ⟨hnext, ?_, ?_, ?_⟩
  · rw [Service.receive_of_heard? around hm, hheed]
    exact Session.published_apply_of_error hload
  · rw [Session.SameChoice, hfolder, hnext]
    exact ⟨fun hsame => hsame.2.2, fun hsame => ⟨rfl, rfl, hsame⟩⟩
  · intro later ask version hask
    rw [response_switchVersion_iff hask, hfolder]

/-! ## A session that loses its data folder -/

def furtherData : Surroundings :=
  ⟨((Host.blank [] []).provide ["d", "varinfo-15.0.json"] (.file (.text "{}") false)).provideFolders
    ["e"], none⟩

def folderLog : List Event :=
  [(furtherData, ⟨"initialize", some (.object [("capabilities", .object []),
    ("initializationOptions", .object [("dataDir", .string "/d")])]), true⟩)]

def straySettings : Settings :=
  ⟨"15.9", some ⟨"/e"⟩, .default⟩

def strayValue : Json :=
  .object [("version", .string "15.9"), ("dataDir", .string "/e")]

def strayMessage : Incoming :=
  ⟨"workspace/didChangeConfiguration", some (.object [("settings", strayValue)]), false⟩

def furtherVersionMessage : Incoming :=
  ⟨"workspace/executeCommand", some (.object [("command", .string "octopus.switchVersion"),
    ("arguments", .array [.string "15.0"])]), true⟩

theorem phase_folderLog : (transcript folderLog).service.phase = .running := by decide +kernel

theorem heard?_strayMessage :
    (transcript folderLog).service.heard? strayMessage = some (.configured strayValue) :=
  Service.heard?_eq_some_iff.2 ⟨phase_folderLog, rfl, by decide, rfl⟩

theorem ofJson_strayValue : Settings.ofJson strayValue = .ok straySettings := rfl

theorem load_straySettings :
    Catalog.load furtherData.host straySettings.version straySettings.dataFolder =
      .error (.catalog "15.9" .notBundled) := by
  have hfile : furtherData.host.isFile
      ((Path.mk "/e").join (Catalog.dataFileName "15.9")) = false := by decide +kernel
  exact Catalog.load_of_not_isFile hfile

theorem failed_configuration_takes_folder_stray :
    let s := (transcript folderLog).service
    let next := (s.receive furtherData strayMessage).service
    Settings.ofJson strayValue = .ok straySettings ∧
    Catalog.load furtherData.host straySettings.version straySettings.dataFolder =
      .error (.catalog "15.9" .notBundled) ∧
    next = { s with session := { s.session with
      settings := ⟨s.session.settings.version, some ⟨"/e"⟩, .default⟩ } } := by
  obtain ⟨hnext, _⟩ := failed_configuration_takes_folder folderLog furtherData strayMessage
    strayValue straySettings _ heard?_strayMessage ofJson_strayValue load_straySettings
  exact ⟨ofJson_strayValue, load_straySettings, hnext⟩

/-- The settings that fail do change the choice of a catalog: a version that could be had before
cannot be had after. -/
theorem failed_configuration_loses_version :
    let s := (transcript folderLog).service
    let next := (s.receive furtherData strayMessage).service
    s.heard? strayMessage = some (.configured strayValue) ∧
    Settings.ofJson strayValue = .ok straySettings ∧
    Catalog.load furtherData.host straySettings.version straySettings.dataFolder =
      .error (.catalog "15.9" .notBundled) ∧
    ¬ next.session.SameChoice s.session ∧
    (s.receive furtherData furtherVersionMessage).response = .answer (.version "15.0") ∧
    (next.receive furtherData furtherVersionMessage).response ≠ .answer (.version "15.0") := by
  intro s next
  have hbefore : s.session.settings.dataFolder = some ⟨"/d"⟩ := by decide +kernel
  have hafter : next.session.settings.dataFolder = some ⟨"/e"⟩ := by decide +kernel
  have hphase : next.phase = .running := by decide +kernel
  have hask : s.asked? furtherVersionMessage = some (.command (.switchVersion (some "15.0"))) :=
    Service.asked?_eq_some_iff.2 ⟨phase_folderLog, rfl, by decide, rfl⟩
  have hask' : next.asked? furtherVersionMessage =
      some (.command (.switchVersion (some "15.0"))) :=
    Service.asked?_eq_some_iff.2 ⟨hphase, rfl, by decide, rfl⟩
  refine ⟨heard?_strayMessage, ofJson_strayValue, load_straySettings, ?_, ?_, ?_⟩
  · intro hsame
    have hfolder := hsame.2.2
    rw [hbefore, hafter] at hfolder
    revert hfolder
    decide
  · rw [response_switchVersion_iff hask, hbefore]
    have hok : (Catalog.load furtherData.host "15.0" (some ⟨"/d"⟩)).isOk = true := by
      decide +kernel
    cases hload : Catalog.load furtherData.host "15.0" (some ⟨"/d"⟩) with
    | ok c => exact ⟨c, rfl⟩
    | error e =>
      rw [hload] at hok
      cases hok
  · rw [ne_eq, response_switchVersion_iff hask', hafter]
    have hfail : (Catalog.load furtherData.host "15.0" (some ⟨"/e"⟩)).isOk = false := by
      decide +kernel
    rintro ⟨c, hload⟩
    rw [hload] at hfail
    cases hfail

end Server

end InputDeck
