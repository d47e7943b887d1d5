import InputDeck.Proofs.Server.Freshness
import InputDeck.Server.Connection

/-!
# What a detection decides

The version in use is looked for in many places, one after the other, and the first that tells
decides. Here the places are one list, `Version.signals`. Whether the server goes over to the
version that was found depends on three more things, and its answer says exactly what became of its
catalog, its settings and what is shown for the open documents.
-/

namespace InputDeck

namespace Version

/-- What each place says about the version, in the order in which the places are looked at: the
installed program, the active document, and folder by folder the version files. A file that cannot
be read says nothing. -/
def signals (h : Host) (probed document : Option String) (roots : List Path) :
    List (Option String) :=
  probed :: document.bind marked? :: roots.flatMap fun root =>
    workspaceFiles.map fun name => (h.readText (root.join name)).toOption.bind marked?

theorem markedFile?_eq (h : Host) (p : Path) :
    markedFile? h p = (h.readText p).toOption.bind marked? := by
  rw [markedFile?]
  cases h.readText p <;> rfl

/-- Going through the files of one folder after the other is going through all files. -/
theorem inWorkspace?_eq (h : Host) (roots : List Path) :
    inWorkspace? h roots = (roots.flatMap fun root => workspaceFiles.map fun name =>
      (h.readText (root.join name)).toOption.bind marked?).findSome? id := by
  rw [inWorkspace?]
  induction roots with
  | nil => rfl
  | cons root roots ih =>
    have hfolder : workspaceFiles.findSome? (fun name => markedFile? h (root.join name)) =
        (workspaceFiles.map fun name =>
          (h.readText (root.join name)).toOption.bind marked?).findSome? id := by
      simp only [markedFile?_eq]
      rw [List.findSome?_map]
      rfl
    rw [List.flatMap_cons, List.findSome?_append, ← hfolder, ← ih, List.findSome?_cons]
    cases workspaceFiles.findSome? fun name => markedFile? h (root.join name) <;> rfl

theorem detect?_eq_findSome? (h : Host) (probed document : Option String) (roots : List Path) :
    detect? h probed document roots = (signals h probed document roots).findSome? id := by
  rw [detect?, inWorkspace?_eq, signals, List.findSome?_cons, List.findSome?_cons]
  cases probed with
  | some version => rfl
  | none => cases document.bind marked? <;> rfl

end Version

namespace Server

open InputDeck.Editor

namespace Session

/-- The version can be gone over to: it is not the one in use, it is on the list, and there is a
catalog of it. -/
structure Adoptable (s : Session) (h : Host) (version : String) (c : Catalog) : Prop where
  other : version ≠ s.catalog.version
  listed : version ∈ Catalog.availableVersions h s.settings.dataFolder
  loads : Catalog.load h version s.settings.dataFolder = .ok c

variable {s : Session} {around : Surroundings} {active : Option Uri} {detected : Option String}

def signals (s : Session) (around : Surroundings) (active : Option Uri) : List (Option String) :=
  Version.signals around.host around.installed ((active.bind s.document?).map Document.text) s.roots

theorem autoDetect_of_adoptable {version : String} {c : Catalog}
    (hdetected : (s.signals around active).findSome? id = some version)
    (h : s.Adoptable around.host version c) :
    (s.autoDetect around active).session =
        { s with catalog := c, settings := { s.settings with version }, detected := some version } ∧
      published (s.autoDetect around active).notices =
        s.documents.entries.map (fun e => .ofDocument c e.1 e.2) ∧
      (s.autoDetect around active).value = ⟨some version, true⟩ := by
  have hload : Catalog.load around.host version
      ({ s with detected := some version } : Session).settings.dataFolder = .ok c := h.loads
  have hvalue : (({ s with detected := some version } : Session).switch around.host version).value =
      .ok () := by
    rw [switch, hload]
  rw [autoDetect, Version.detect?_eq_findSome?]
  dsimp only
  rw [← signals, hdetected]
  dsimp only
  rw [if_neg h.other, if_pos h.listed, hvalue]
  exact ⟨switch_session_of_ok hload, published_switch_of_ok hload, rfl⟩

theorem autoDetect_of_not_adoptable (hdetected : (s.signals around active).findSome? id = detected)
    (h : ∀ version c, detected = some version → ¬ s.Adoptable around.host version c) :
    (s.autoDetect around active).session = { s with detected } ∧
      published (s.autoDetect around active).notices = [] ∧
      (s.autoDetect around active).value = ⟨detected, false⟩ := by
  rw [autoDetect, Version.detect?_eq_findSome?]
  dsimp only
  rw [← signals, hdetected]
  cases detected with
  | none => exact ⟨rfl, rfl, rfl⟩
  | some version =>
    dsimp only
    by_cases hsame : version = s.catalog.version
    · rw [if_pos hsame]
      exact ⟨rfl, rfl, rfl⟩
    by_cases hlisted : version ∈ Catalog.availableVersions around.host s.settings.dataFolder
    · -- the version is on the list, so it can only be that its catalog does not load
      cases hload : Catalog.load around.host version s.settings.dataFolder with
      | ok c => exact absurd ⟨hsame, hlisted, hload⟩ (h version c rfl)
      | error e =>
        have hswitch := switch_of_error (s := { s with detected := some version }) hload
        rw [if_neg hsame, if_pos hlisted, hswitch]
        exact ⟨rfl, rfl, rfl⟩
    · rw [if_neg hsame, if_neg hlisted]
      exact ⟨rfl, rfl, rfl⟩

end Session

/-- How an answer about a detection is sent. -/
theorem responseFrame?_detection (id : Json) (d : Session.Detection) :
    Connection.responseFrame? id (.answer (.detection d)) = some (.object
      [("jsonrpc", .string "2.0"),
       ("result", .object [("detected", d.version.elim .null .string),
         ("switched", .bool d.switched)]),
       ("id", id)]) := by
  rw [Connection.responseFrame?, Connection.answerFrame, Answer.toJson]
  cases d.version <;> rfl

/-- In every state that a server can get into, a request to detect the version is answered with the
first signal, or null if there is none, and with whether the server went over to its version; these
are the two members of the result that is sent. The signal is kept. The server goes over exactly if
there is a signal and its version is another one than that in use, is on the list, and can be
loaded. Then the catalog is the loaded one, the settings name the version, and there is a
publication for each open document. Otherwise nothing but the kept signal changes, and nothing is
published. -/
theorem autoDetect_decision (log : List Event) :
    let t := transcript log
    let s := t.service.session
    ∀ around m active, t.service.asked? m = some (.command (.autoDetectVersion active)) →
      let document := (active.bind fun uri => latest? t.heard uri.text).map Document.text
      let detected :=
        (Version.signals around.host around.installed document s.roots).findSome? id
      let r := t.service.receive around m
      ∃ switched, r.response = .answer (.detection ⟨detected, switched⟩) ∧
        (∀ id, Connection.responseFrame? id r.response = some (.object
          [("jsonrpc", .string "2.0"),
           ("result", .object [("detected", detected.elim .null .string),
             ("switched", .bool switched)]),
           ("id", id)])) ∧
        r.service.session.detected = detected ∧
        (switched = true ↔ ∃ version c, detected = some version ∧
          version ≠ s.catalog.version ∧
          version ∈ Catalog.availableVersions around.host s.settings.dataFolder ∧
          Catalog.load around.host version s.settings.dataFolder = .ok c) ∧
        (switched = true → ∃ version c, detected = some version ∧
          Catalog.load around.host version s.settings.dataFolder = .ok c ∧
          r.service = { t.service with session := { s with
            catalog := c, settings := { s.settings with version }, detected } } ∧
          published r.notices = s.documents.entries.map (fun e => .ofDocument c e.1 e.2) ∧
          s.PublishesOnce r.notices) ∧
        (switched = false →
          r.service = { t.service with session := { s with detected } } ∧
          published r.notices = []) := by
  intro t s around m active hm document detected r
  have hdocument : (active.bind s.document?).map Document.text = document := by
    have hlatest : s.document? = fun uri => latest? t.heard uri.text :=
      funext fun uri => (Transcript.fresh_transcript log).documents uri.text
    rw [hlatest]
  have hdetected : (s.signals around active).findSome? id = detected := by
    rw [Session.signals, hdocument]
  have hr : r = ⟨{ t.service with session := (s.autoDetect around active).session },
      (s.autoDetect around active).notices,
      .answer (.detection (s.autoDetect around active).value)⟩ :=
    Service.receive_of_asked? around hm
  generalize detected = detected at hdetected ⊢
  by_cases h : ∃ version c, detected = some version ∧ s.Adoptable around.host version c
  · obtain ⟨version, c, rfl, hadoptable⟩ := h
    obtain ⟨hsession, hpublished, hvalue⟩ := Session.autoDetect_of_adoptable hdetected hadoptable
    have honce := s.publishesOnce_autoDetect around active (by rw [hvalue])
    rw [hr, hsession, hvalue]
    refine ⟨true, rfl, fun id => responseFrame?_detection id _, rfl, ?_, ?_, ?_⟩
    · exact ⟨fun _ => ⟨version, c, rfl, hadoptable.other, hadoptable.listed, hadoptable.loads⟩,
        fun _ => rfl⟩
    · exact fun _ => ⟨version, c, rfl, hadoptable.loads, rfl, hpublished, honce⟩
    · intro hfalse
      cases hfalse
  · have hnot : ∀ version c, detected = some version → ¬ s.Adoptable around.host version c :=
      fun version c hsome hadoptable => h ⟨version, c, hsome, hadoptable⟩
    obtain ⟨hsession, hpublished, hvalue⟩ :=
      Session.autoDetect_of_not_adoptable hdetected hnot
    rw [hr, hsession, hvalue]
    refine ⟨false, rfl, fun id => responseFrame?_detection id _, rfl, ?_, ?_, ?_⟩
    · constructor
      · intro htrue
        cases htrue
      · rintro ⟨version, c, hsome, hother, hlisted, hload⟩
        exact absurd ⟨hother, hlisted, hload⟩ (hnot version c hsome)
    · intro htrue
      cases htrue
    · exact fun _ => ⟨rfl, hpublished⟩

def versionFileAround : Surroundings :=
  ⟨(((Host.blank [] []).provide ["w", "octopus.conf"] (.file (.bytes [0xff]) false)).provide
      ["w", "config.inp"] (.file (.text "Spacing = 1\n") false)).provide
      ["w", "version.txt"] (.file (.text "% Octopus versio - 16.2\n") false), none⟩

def workspaceLog : List Event :=
  [(versionFileAround, ⟨"initialize", some (.object [("capabilities", .object []),
      ("rootUri", .string "file:///w")]), true⟩),
   (versionFileAround, ⟨"textDocument/didOpen", some (.object [("textDocument", .object
      [("uri", .string "file:///inp"), ("languageId", .string "octopus"), ("version", .ofNat 1),
       ("text", .string "Spacing = wide")])]), false⟩)]

def detectMessage : Incoming :=
  ⟨"workspace/executeCommand", some (.object [("command", .string "octopus.autoDetectVersion"),
    ("arguments", .array [.string "file:///inp"])]), true⟩

def workspaceSignals (around : Surroundings) : List (Option String) :=
  Version.signals around.host around.installed
    (((Uri.parse? "file:///inp").bind fun uri =>
      latest? (transcript workspaceLog).heard uri.text).map Document.text)
    (transcript workspaceLog).service.session.roots

theorem autoDetect_decision_versionFile :
    let t := transcript workspaceLog
    let found := t.service.receive versionFileAround detectMessage
    let missed := t.service.receive bareSurroundings detectMessage
    found.response = .answer (.detection ⟨some "16.2", true⟩) ∧
      Connection.responseFrame? (.ofNat 2) found.response = some (.object
        [("jsonrpc", .string "2.0"),
         ("result", .object [("detected", .string "16.2"), ("switched", .bool true)]),
         ("id", .ofNat 2)]) ∧
      found.service.session.catalog = Catalog.bundled162 ∧
      t.service.session.PublishesOnce found.notices ∧
      missed.response = .answer (.detection ⟨none, false⟩) ∧
      Connection.responseFrame? (.ofNat 3) missed.response = some (.object
        [("jsonrpc", .string "2.0"),
         ("result", .object [("detected", .null), ("switched", .bool false)]),
         ("id", .ofNat 3)]) ∧
      missed.service = { t.service with session := { t.service.session with detected := none } } ∧
      published missed.notices = [] := by
  intro t found missed
  have hrun : t.service.phase = .running := by decide +kernel
  have hasked : t.service.asked? detectMessage =
      some (.command (.autoDetectVersion (Uri.parse? "file:///inp"))) :=
    Service.asked?_eq_some_iff.2 ⟨hrun, rfl, by decide, rfl⟩
  have hfolder : t.service.session.settings.dataFolder = none := by decide +kernel
  have hversion : t.service.session.catalog.version = "14.1" := by decide +kernel
  have hload : Catalog.load versionFileAround.host "16.2" none = .ok Catalog.bundled162 := rfl
  have hlisted : "16.2" ∈ Catalog.availableVersions versionFileAround.host none := by decide +kernel
  have hmarker : (workspaceSignals versionFileAround).findSome? id = some "16.2" := by
    decide +kernel
  have hsilence : (workspaceSignals bareSurroundings).findSome? id = none := by decide +kernel
  obtain ⟨switched, hresponse, hsent, _, hiff, htrue, _⟩ :=
    autoDetect_decision workspaceLog versionFileAround detectMessage _ hasked
  obtain ⟨kept, hanswer, hnull, _, hnever, _, hfalse⟩ :=
    autoDetect_decision workspaceLog bareSurroundings detectMessage _ hasked
  rw [← workspaceSignals, hmarker] at hresponse hsent hiff htrue
  rw [← workspaceSignals, hsilence] at hanswer hnull hnever hfalse
  have hswitched : switched = true :=
    hiff.2 ⟨"16.2", Catalog.bundled162, rfl, by rw [hversion]; decide, by rwa [hfolder],
      by rwa [hfolder]⟩
  have hkept : kept = false := by
    rw [Bool.eq_false_iff]
    intro hkept
    obtain ⟨_, _, hsome, _⟩ := hnever.1 hkept
    cases hsome
  obtain ⟨version, c, hsome, hloaded, hservice, _, honce⟩ := htrue hswitched
  cases hsome
  rw [hfolder, hload] at hloaded
  cases hloaded
  obtain ⟨hunchanged, hunpublished⟩ := hfalse hkept
  rw [hswitched] at hresponse hsent
  rw [hkept] at hanswer hnull
  exact ⟨hresponse, hsent _, congrArg (·.session.catalog) hservice, honce, hanswer, hnull _,
    hunchanged, hunpublished⟩

end Server

end InputDeck
