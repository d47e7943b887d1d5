import InputDeck.Proofs.Dictionary
import InputDeck.Proofs.Server.Transcript

/-!
# What is published about documents

A client shows, for each document, the diagnostics that were published last for it: `shown?`. Which
document that ought to be can be told from the notifications alone: `latest?`.

Messages that are not about one document leave all of them as they are. They come down to two
cases, listed by `Session.Turn`: nothing happens to the catalog and nothing is published, or
everything is published anew.
-/

namespace InputDeck.Server

open InputDeck.Editor

/-! ## What a client knows -/

structure Publication where
  uri : String
  diagnostics : List Diagnostic
  version : Option Int

namespace Publication

def ofDocument (c : Catalog) (uri : String) (doc : Document) : Publication :=
  ⟨uri, doc.diagnostics c, some doc.version⟩

def blank (uri : String) : Publication :=
  ⟨uri, [], none⟩

end Publication

def Notice.publication? : Notice → Option Publication
  | .publish uri diagnostics version => some ⟨uri, diagnostics, version⟩
  | _ => none

def published (ns : List Notice) : List Publication :=
  ns.filterMap Notice.publication?

def shown? (ns : List Notice) (uri : String) : Option Publication :=
  (published ns).reverse.find? fun p => p.uri == uri

def timesPublished (ns : List Notice) (uri : String) : Nat :=
  ((published ns).map Publication.uri).count uri

theorem published_append (ns ms : List Notice) :
    published (ns ++ ms) = published ns ++ published ms :=
  List.filterMap_append

theorem shown?_append (ns ms : List Notice) (uri : String) :
    shown? (ns ++ ms) uri = (shown? ms uri).or (shown? ns uri) := by
  rw [shown?, published_append, List.reverse_append, List.find?_append]
  rfl

theorem shown?_of_published_nil {ns : List Notice} (h : published ns = []) (uri : String) :
    shown? ns uri = none := by
  rw [shown?, h]
  rfl

theorem shown?_of_published_singleton {ns : List Notice} {p : Publication}
    (h : published ns = [p]) (uri : String) :
    shown? ns uri = if uri = p.uri then some p else none := by
  rw [shown?, h, List.reverse_singleton, List.find?_singleton]
  by_cases hu : uri = p.uri
  · simp [hu]
  · simp [hu, Ne.symm hu]

/-! ## What the notifications leave open -/

/-- What a notification leaves under a URI: a document, no document, or nothing new. -/
def Notification.leaves? (uri : String) : Notification → Option (Option Document)
  | .opened u text version => if uri = u.text then some (some ⟨text, version⟩) else none
  | .changed u texts version =>
    if uri = u.text then texts.getLast?.map fun text => some ⟨text, version⟩ else none
  | .closed u => if uri = u.text then some none else none
  | .initialized => none
  | .configured _ => none

/-- The document that is open under a URI after some notifications. The last one that opens,
changes or closes it decides; a change without a text is no change. -/
def latest? (heard : List Notification) (uri : String) : Option Document :=
  (heard.reverse.findSome? fun n => n.leaves? uri).join

theorem latest?_append_singleton (heard : List Notification) (n : Notification) (uri : String) :
    latest? (heard ++ [n]) uri = (n.leaves? uri).getD (latest? heard uri) := by
  rw [latest?, List.reverse_append, List.reverse_singleton, List.singleton_append,
    List.findSome?_cons]
  cases n.leaves? uri <;> rfl

namespace Session

theorem published_publications (s : Session) :
    published s.publications =
      s.documents.entries.map fun e => Publication.ofDocument s.catalog e.1 e.2 := by
  rw [published, publications, List.filterMap_map, ← List.filterMap_eq_map]
  rfl

theorem switch_of_error {s : Session} {h : Host} {version : String} {e : Error}
    (hload : Catalog.load h version s.settings.dataFolder = .error e) :
    s.switch h version =
      ⟨s, [.alert .error ("Failed to switch version: " ++ e.message)], .error e⟩ := by
  rw [switch, hload]

theorem switch_session_of_ok {s : Session} {h : Host} {version : String} {c : Catalog}
    (hload : Catalog.load h version s.settings.dataFolder = .ok c) :
    (s.switch h version).session = s.adopt c version := by
  rw [switch, hload]

theorem exists_load_of_switch_ok {s : Session} {h : Host} {version : String}
    (hok : (s.switch h version).value = .ok ()) :
    ∃ c, Catalog.load h version s.settings.dataFolder = .ok c := by
  cases hload : Catalog.load h version s.settings.dataFolder with
  | ok c => exact ⟨c, rfl⟩
  | error e =>
    rw [switch_of_error hload] at hok
    cases hok

theorem published_switch_of_ok {s : Session} {h : Host} {version : String} {c : Catalog}
    (hload : Catalog.load h version s.settings.dataFolder = .ok c) :
    published (s.switch h version).notices =
      s.documents.entries.map fun e => Publication.ofDocument c e.1 e.2 := by
  have hpub := published_publications (s.adopt c version)
  rw [switch, hload]
  dsimp only
  rw [List.cons_append, published, List.filterMap_cons]
  change published ((s.adopt c version).publications ++ [.refreshHints]) = _
  rw [published_append, hpub]
  exact List.append_nil _

/-! ## Messages that are not about one document -/

/-- Such a message leaves the documents alone. Either it leaves the catalog alone too and publishes
nothing, or it goes over to some catalog and publishes anew for every open document. -/
inductive Turn (s : Session) : Session → List Notice → Prop where
  | quiet {t : Session} {ns : List Notice} (hd : t.documents = s.documents)
      (hc : t.catalog = s.catalog) (hp : published ns = []) : Turn s t ns
  | switched {t : Session} {ns : List Notice} (hd : t.documents = s.documents)
      (hp : published ns = t.documents.entries.map fun e => .ofDocument t.catalog e.1 e.2) :
      Turn s t ns

theorem Turn.documents_eq {s t : Session} {ns : List Notice} (h : Turn s t ns) :
    t.documents = s.documents := by
  cases h with
  | quiet hd _ _ => exact hd
  | switched hd _ => exact hd

/-- Only documents and catalog matter. -/
theorem Turn.congr {s s' t t' : Session} {ns : List Notice} (h : Turn s t ns)
    (hsd : s'.documents = s.documents) (hsc : s'.catalog = s.catalog)
    (htd : t'.documents = t.documents) (htc : t'.catalog = t.catalog) : Turn s' t' ns := by
  cases h with
  | quiet hd hc hp =>
    exact .quiet (htd.trans (hd.trans hsd.symm)) (htc.trans (hc.trans hsc.symm)) hp
  | switched hd hp =>
    refine .switched (htd.trans (hd.trans hsd.symm)) ?_
    rw [hp, htd, htc]

variable (s : Session)

theorem turn_switch (h : Host) (version : String) :
    Turn s (s.switch h version).session (s.switch h version).notices := by
  cases hload : Catalog.load h version s.settings.dataFolder with
  | error e =>
    rw [switch_of_error hload]
    exact .quiet rfl rfl rfl
  | ok c =>
    rw [switch_session_of_ok hload]
    exact .switched rfl (published_switch_of_ok hload)

theorem turn_apply (h : Host) (settings : Settings) :
    Turn s (s.apply h settings).session (s.apply h settings).notices := by
  have hswitch := turn_switch { s with settings } h settings.version
  unfold apply
  dsimp only
  split
  · exact .quiet rfl rfl rfl
  · split <;> exact hswitch.congr rfl rfl rfl rfl

theorem turn_configure (h : Host) (value : Json) :
    Turn s (s.configure h value).session (s.configure h value).notices := by
  unfold configure
  split
  · exact turn_apply s h _
  · exact .quiet rfl rfl rfl

theorem turn_detectInstalled (around : Surroundings) :
    Turn s (s.detectInstalled around).session (s.detectInstalled around).notices := by
  refine .quiet rfl rfl ?_
  unfold detectInstalled
  cases around.installed <;> rfl

theorem turn_autoDetect (around : Surroundings) (active : Option Uri) :
    Turn s (s.autoDetect around active).session (s.autoDetect around active).notices := by
  unfold autoDetect
  dsimp only
  split
  · exact .quiet rfl rfl rfl
  · next version _ =>
    split
    · exact .quiet rfl rfl rfl
    · split
      · split <;> exact (turn_switch _ around.host version).congr rfl rfl rfl rfl
      · exact .quiet rfl rfl rfl

theorem turn_obey (around : Surroundings) (command : Command) :
    Turn s (s.obey around command).session (s.obey around command).notices := by
  cases command with
  | switchVersion version =>
    cases version with
    | none => exact .quiet rfl rfl rfl
    | some version =>
      have hswitch := turn_switch s around.host version
      unfold obey
      dsimp only
      split <;> exact hswitch
  | detectSystemVersion => exact turn_detectInstalled s around
  | autoDetectVersion active => exact turn_autoDetect s around active
  | toggleInlayHints => exact .quiet rfl rfl rfl
  | showVariables => exact .quiet rfl rfl rfl
  | unknown name => exact .quiet rfl rfl rfl

theorem turn_answer (around : Surroundings) (request : Request) :
    Turn s (s.answer around request).session (s.answer around request).notices := by
  cases request with
  | command command => exact turn_obey s around command
  | _ => exact .quiet rfl rfl rfl

end Session

end InputDeck.Server
