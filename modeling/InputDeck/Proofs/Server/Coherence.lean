import InputDeck.Proofs.Server.Publication

/-!
# Settings and catalog speak of the same version

The version in the settings and the catalog in use are written separately. They agree in every state
that a server can get into, whatever the host holds whenever a catalog is loaded. A version that
cannot be loaded leaves everything as it was.
-/

namespace InputDeck

namespace Catalog

theorem version_of_bundled {version : String} {c : Catalog} (h : bundled version = .ok c) :
    c.version = version := by
  unfold bundled at h
  split at h
  · cases h
    rfl
  · cases h
    rfl
  · cases h

theorem version_of_read? {version text : String} {c : Catalog} (h : read? version text = some c) :
    c.version = version := by
  obtain ⟨v, _, hv⟩ := Option.bind_eq_some_iff.1 h
  cases v with
  | object members =>
    obtain ⟨read, _, rfl⟩ := Option.map_eq_some_iff.1 hv
    rfl
  | _ => cases hv

theorem version_of_load {h : Host} {version : String} {folder : Option Path} {c : Catalog}
    (hload : load h version folder = .ok c) : c.version = version := by
  unfold load at hload
  split at hload
  · exact version_of_bundled hload
  · dsimp only at hload
    split at hload
    · unfold ofFile at hload
      split at hload
      · cases hload
      · split at hload
        · next hread =>
          cases hload
          exact version_of_read? hread
        · cases hload
    · exact version_of_bundled hload

end Catalog

namespace Server

namespace Session

/-- The settings name the version of the catalog in use. -/
def Coherent (s : Session) : Prop :=
  s.settings.version = s.catalog.version

theorem coherent_fresh : Coherent .fresh := rfl

theorem coherent_start (s : Session) (h : Host) (setup : Setup) : (s.start h setup).Coherent := rfl

theorem coherent_adopt {s : Session} {h : Host} {version : String} {folder : Option Path}
    {c : Catalog} (hload : Catalog.load h version folder = .ok c) :
    (s.adopt c version).Coherent :=
  (Catalog.version_of_load hload).symm

variable {s : Session}

theorem Coherent.switch (hs : s.Coherent) (h : Host) (version : String) :
    (s.switch h version).session.Coherent := by
  cases hload : Catalog.load h version s.settings.dataFolder with
  | error e =>
    rw [switch_of_error hload]
    exact hs
  | ok c =>
    rw [switch_session_of_ok hload]
    exact coherent_adopt hload

/-- New settings are written before their catalog is loaded, so the session in between need not be
coherent. The version is put right again if loading fails. -/
theorem Coherent.apply (hs : s.Coherent) (h : Host) (settings : Settings) :
    (s.apply h settings).session.Coherent := by
  unfold Session.apply
  dsimp only
  split
  · next hsame => exact hsame.1.trans hs
  · cases hload : Catalog.load h settings.version settings.dataFolder with
    | error e =>
      rw [switch_of_error hload]
      rfl
    | ok c =>
      have hsession := switch_session_of_ok (s := { s with settings }) hload
      have hadopt :
          (({ s with settings } : Session).switch h settings.version).session.Coherent := by
        rw [hsession]
        exact coherent_adopt hload
      split
      · exact hadopt
      · next e he => simp [Session.switch, hload] at he

theorem Coherent.configure (hs : s.Coherent) (h : Host) (value : Json) :
    (s.configure h value).session.Coherent := by
  unfold Session.configure
  split
  · exact hs.apply h _
  · exact hs

theorem Coherent.autoDetect (hs : s.Coherent) (around : Surroundings) (active : Option Uri) :
    (s.autoDetect around active).session.Coherent := by
  unfold Session.autoDetect
  dsimp only
  split
  · exact hs
  · next version _ =>
    split
    · exact hs
    · split
      · have hnext : ∀ detected, Coherent { s with detected } := fun _ => hs
        split <;> exact (hnext _).switch around.host version
      · exact hs

theorem Coherent.obey (hs : s.Coherent) (around : Surroundings) (command : Command) :
    (s.obey around command).session.Coherent := by
  cases command with
  | switchVersion version =>
    cases version with
    | none => exact hs
    | some version =>
      unfold Session.obey
      dsimp only
      split <;> exact hs.switch around.host version
  | detectSystemVersion => exact hs
  | autoDetectVersion active => exact hs.autoDetect around active
  | toggleInlayHints => exact hs
  | showVariables => exact hs
  | unknown name => exact hs

theorem Coherent.answer (hs : s.Coherent) (around : Surroundings) (request : Request) :
    (s.answer around request).session.Coherent := by
  cases request with
  | command command => exact hs.obey around command
  | _ => exact hs

theorem Coherent.change (hs : s.Coherent) (uri : Uri) (texts : List String) (version : Int) :
    (s.change uri texts version).session.Coherent := by
  unfold Session.change
  split
  · exact hs
  · split <;> exact hs

theorem Coherent.heed (hs : s.Coherent) (around : Surroundings) (n : Notification) :
    (s.heed around n).session.Coherent := by
  cases n with
  | changed uri texts version => exact hs.change uri texts version
  | configured value => exact hs.configure around.host value
  | _ => exact hs

end Session

theorem coherent_receive (s : Service) (around : Surroundings) (m : Incoming)
    (hs : s.session.Coherent) : (s.receive around m).service.session.Coherent := by
  have hpass := s.passage_receive around m
  generalize s.receive around m = r at hpass
  generalize s.heard? m = heard at hpass
  cases hpass with
  | idle hr _ _ =>
    rw [hr]
    exact hs
  | started setup _ hr _ =>
    rw [hr]
    exact s.session.coherent_start around.host setup
  | answered request _ hr _ =>
    rw [hr]
    exact hs.answer around request
  | heeded n _ hr _ =>
    rw [hr]
    exact hs.heed around n

theorem coherent_transcript (log : List Event) : (transcript log).service.session.Coherent :=
  transcript_induction (P := fun t => t.service.session.Coherent) Session.coherent_fresh
    (fun t e ht => coherent_receive t.service e.1 e.2 ht) log

/-- In every state that a server can get into, the settings name the version of the catalog in use.
A request for a version that cannot be loaded is refused and leaves the whole server as it is, and
nothing is published meanwhile. -/
theorem version_coherence (log : List Event) :
    let s := (transcript log).service
    s.session.settings.version = s.session.catalog.version ∧
    ∀ around m version e, s.asked? m = some (.command (.switchVersion (some version))) →
      Catalog.load around.host version s.session.settings.dataFolder = .error e →
      (s.receive around m).service = s ∧ published (s.receive around m).notices = [] ∧
        (s.receive around m).response = .refusal (.failed e) := by
  intro s
  refine ⟨coherent_transcript log, ?_⟩
  intro around m version e hm hload
  have hanswer : s.session.answer around (.command (.switchVersion (some version))) =
      ⟨s.session, [.alert .error ("Failed to switch version: " ++ e.message)],
        .error (.failed e)⟩ := by
    change s.session.obey around (.switchVersion (some version)) = _
    unfold Session.obey
    dsimp only
    rw [Session.switch_of_error hload]
  rw [Service.receive_of_asked? around hm, hanswer]
  exact ⟨rfl, rfl, rfl⟩

def unknownVersionMessage : Incoming :=
  ⟨"workspace/executeCommand", some (.object [("command", .string "octopus.switchVersion"),
    ("arguments", .array [.string "9.9"])]), true⟩

theorem version_coherence_unknownVersion :
    let bare : Surroundings := ⟨.blank [] [], none⟩
    let s := (transcript
      [(bare, ⟨"initialize", some (.object [("capabilities", .object [])]), true⟩)]).service
    s.session.settings.version = s.session.catalog.version ∧
    (s.receive bare unknownVersionMessage).service = s ∧
    published (s.receive bare unknownVersionMessage).notices = [] := by
  intro bare s
  have hrun : s.phase = .running := by decide +kernel
  have hfolder : s.session.settings.dataFolder = none := by decide +kernel
  have hasked : s.asked? unknownVersionMessage =
      some (.command (.switchVersion (some "9.9"))) :=
    Service.asked?_eq_some_iff.2 ⟨hrun, rfl, by decide, rfl⟩
  have hload : Catalog.load bare.host "9.9" s.session.settings.dataFolder =
      .error (.catalog "9.9" .notBundled) := by
    rw [hfolder]
    rfl
  obtain ⟨hversion, hfail⟩ := version_coherence
    [(bare, ⟨"initialize", some (.object [("capabilities", .object [])]), true⟩)]
  obtain ⟨hsame, hsilent, _⟩ := hfail bare unknownVersionMessage "9.9" _ hasked hload
  exact ⟨hversion, hsame, hsilent⟩

end Server

end InputDeck
