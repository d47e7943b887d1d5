import InputDeck.Proofs.Server.Publication

/-!
# Diagnostics are never stale

After every sequence of messages, what a client shows for a document are the diagnostics of its
latest text under the catalog of the moment, and nothing for a document that is closed. Going over
to another version publishes once for each open document, on whichever way it came about.
-/

namespace InputDeck.Server

open InputDeck.Editor

namespace Session

/-- What has been sent last for each URI is what would be sent now. -/
def InStep (s : Session) (ns : List Notice) : Prop :=
  ∀ uri, match s.documents.get? uri with
    | some doc => shown? ns uri = some (.ofDocument s.catalog uri doc)
    | none => ∀ p, shown? ns uri = some p → p = .blank uri

/-- Publishing all entries of a dictionary shows each of them under its key. -/
theorem shown?_entries {ns : List Notice} (d : Dictionary Document) (c : Catalog)
    (h : published ns = d.entries.map fun e => .ofDocument c e.1 e.2) (uri : String) :
    shown? ns uri = (d.get? uri).map (Publication.ofDocument c uri) := by
  cases hd : d.get? uri with
  | none =>
    rw [shown?, List.find?_eq_none.2]
    · rfl
    · intro p hp
      rw [List.mem_reverse, h] at hp
      obtain ⟨e, he, rfl⟩ := List.mem_map.1 hp
      have hmem : (d.get? e.1).isSome = true :=
        (d.get?_isSome_iff e.1).2 (List.mem_map_of_mem he)
      intro heq
      have hu : e.1 = uri := by simpa [Publication.ofDocument] using heq
      rw [hu, hd] at hmem
      cases hmem
  | some doc =>
    have he := (d.get?_eq_some_iff uri doc).1 hd
    cases hs : shown? ns uri with
    | none =>
      rw [shown?, List.find?_eq_none] at hs
      have hmem : Publication.ofDocument c uri doc ∈ (published ns).reverse := by
        rw [List.mem_reverse, h]
        exact List.mem_map.2 ⟨(uri, doc), he, rfl⟩
      exact absurd (beq_self_eq_true uri) (hs _ hmem)
    | some p =>
      rw [shown?] at hs
      have hp := List.mem_of_find?_eq_some hs
      have hu := List.find?_some hs
      rw [List.mem_reverse, h] at hp
      obtain ⟨⟨key, other⟩, he', rfl⟩ := List.mem_map.1 hp
      have hkey : key = uri := by simpa [Publication.ofDocument] using hu
      subst hkey
      have hother : d.get? key = some other := (d.get?_eq_some_iff key other).2 he'
      rw [hd] at hother
      cases hother
      rfl

variable {s t : Session} {ns ms : List Notice}

theorem InStep.turn (h : s.InStep ns) (ht : Turn s t ms) : t.InStep (ns ++ ms) := by
  intro uri
  have huri := h uri
  cases ht with
  | quiet hd hc hp =>
    rw [shown?_append, shown?_of_published_nil hp, Option.none_or, hd, hc]
    exact huri
  | switched hd hp =>
    have hshown := shown?_entries t.documents t.catalog hp uri
    rw [shown?_append, hshown]
    rw [← hd] at huri
    cases hdoc : t.documents.get? uri with
    | none =>
      rw [hdoc] at huri
      exact huri
    | some doc => rfl

theorem InStep.hold (h : s.InStep ns) (uri : Uri) (doc : Document) :
    (s.hold uri doc).session.InStep (ns ++ (s.hold uri doc).notices) := by
  intro u
  have hu := h u
  have hp : published (s.hold uri doc).notices = [.ofDocument s.catalog uri.text doc] := rfl
  have hd : (s.hold uri doc).session.documents = s.documents.insert uri.text doc := rfl
  rw [shown?_append, shown?_of_published_singleton hp, hd, Dictionary.get?_insert]
  by_cases heq : u = uri.text
  · subst heq
    simp [Publication.ofDocument, Session.hold]
  · simp only [heq, Publication.ofDocument, if_false, Option.none_or]
    exact hu

theorem InStep.change (h : s.InStep ns) (uri : Uri) (texts : List String) (version : Int) :
    (s.change uri texts version).session.InStep (ns ++ (s.change uri texts version).notices) := by
  unfold Session.change
  split
  · simpa using h
  · split <;> exact h.hold uri _

theorem InStep.close (h : s.InStep ns) (uri : Uri) :
    (s.close uri).session.InStep (ns ++ (s.close uri).notices) := by
  intro u
  have hu := h u
  have hp : published (s.close uri).notices = [.blank uri.text] := rfl
  have hd : (s.close uri).session.documents = s.documents.erase uri.text := rfl
  rw [shown?_append, shown?_of_published_singleton hp, hd, Dictionary.get?_erase]
  by_cases heq : u = uri.text
  · subst heq
    simp [Publication.blank]
  · simp only [heq, Publication.blank, if_false, Option.none_or]
    exact hu

theorem InStep.heed (h : s.InStep ns) (around : Surroundings) (n : Notification) :
    (s.heed around n).session.InStep (ns ++ (s.heed around n).notices) := by
  cases n with
  | initialized => exact h.turn (.quiet rfl rfl rfl)
  | opened uri text version => exact h.hold uri _
  | changed uri texts version => exact h.change uri texts version
  | closed uri => exact h.close uri
  | configured value => exact h.turn (turn_configure s around.host value)

/-- The documents follow the notifications. -/
theorem get?_documents_heed (s : Session) (around : Surroundings) (n : Notification)
    (uri : String) :
    (s.heed around n).session.documents.get? uri =
      (n.leaves? uri).getD (s.documents.get? uri) := by
  cases n with
  | initialized => rfl
  | opened u text version =>
    change (s.documents.insert u.text _).get? uri = _
    rw [Dictionary.get?_insert, Notification.leaves?]
    by_cases hu : uri = u.text <;> simp [hu]
  | changed u texts version =>
    change (s.change u texts version).session.documents.get? uri = _
    unfold change
    rw [Notification.leaves?]
    cases hlast : texts.getLast? with
    | none => by_cases hu : uri = u.text <;> simp [hu]
    | some text =>
      have hget : (s.documents.insert u.text ⟨text, version⟩).get? uri =
          if uri = u.text then some ⟨text, version⟩ else s.documents.get? uri :=
        Dictionary.get?_insert _ _ _ _
      have hheld : (match s.document? u with
          | some doc => s.hold u (doc.update text version)
          | none => s.hold u ⟨text, version⟩).session.documents.get? uri =
          (s.documents.insert u.text ⟨text, version⟩).get? uri := by
        cases s.document? u <;> rfl
      refine hheld.trans (hget.trans ?_)
      by_cases hu : uri = u.text <;> simp [hu]
  | closed u =>
    change (s.documents.erase u.text).get? uri = _
    rw [Dictionary.get?_erase, Notification.leaves?]
    by_cases hu : uri = u.text <;> simp [hu]
  | configured value =>
    have hd := (turn_configure s around.host value).documents_eq
    change (s.configure around.host value).session.documents.get? uri = _
    rw [hd]
    rfl

/-! ## Going over to another version -/

/-- The notices publish once for every open document and for nothing else. -/
def PublishesOnce (s : Session) (ns : List Notice) : Prop :=
  ∀ uri, timesPublished ns uri = if (s.documents.get? uri).isSome then 1 else 0

theorem publishesOnce_switch (s : Session) (h : Host) (version : String) (c : Catalog)
    (hload : Catalog.load h version s.settings.dataFolder = .ok c) :
    s.PublishesOnce (s.switch h version).notices := by
  intro uri
  have hkeys : (published (s.switch h version).notices).map Publication.uri = s.documents.keys := by
    rw [published_switch_of_ok hload, List.map_map]
    rfl
  rw [timesPublished, hkeys, List.Nodup.count s.documents.keys_nodup]
  simp only [s.documents.get?_isSome_iff]

theorem publishesOnce_obey_switchVersion (s : Session) (around : Surroundings) (version : String)
    (c : Catalog) (hload : Catalog.load around.host version s.settings.dataFolder = .ok c) :
    s.PublishesOnce (s.obey around (.switchVersion (some version))).notices := by
  have honce := publishesOnce_switch s around.host version c hload
  unfold obey
  dsimp only
  split <;> exact honce

theorem publishesOnce_autoDetect (s : Session) (around : Surroundings) (active : Option Uri)
    (hswitched : (s.autoDetect around active).value.switched = true) :
    s.PublishesOnce (s.autoDetect around active).notices := by
  unfold autoDetect at hswitched ⊢
  dsimp only at hswitched ⊢
  split at hswitched
  · cases hswitched
  · next version _ =>
    split at hswitched
    · cases hswitched
    · next hne =>
      split at hswitched
      · next hmem =>
        rw [if_neg hne, if_pos hmem]
        split at hswitched
        · next hok =>
          obtain ⟨c, hload⟩ := exists_load_of_switch_ok hok
          exact publishesOnce_switch _ around.host version c hload
        · cases hswitched
      · cases hswitched

theorem publishesOnce_configure (s : Session) (h : Host) (value : Json) (settings : Settings)
    (c : Catalog) (hvalue : Settings.ofJson value = .ok settings)
    (hother : ¬(settings.version = s.settings.version ∧ settings.sameFolder s.settings))
    (hload : Catalog.load h settings.version settings.dataFolder = .ok c) :
    s.PublishesOnce (s.configure h value).notices := by
  have honce := publishesOnce_switch { s with settings } h settings.version c hload
  rw [configure, hvalue]
  dsimp only
  unfold apply
  dsimp only
  rw [if_neg hother]
  split <;> exact honce

end Session

/-! ## Whole sequences of messages -/

namespace Transcript

/-- What holds between any two messages: the open documents are those that the notifications left,
what is shown is in step with the session, and no document is open before there is a session. -/
structure Fresh (t : Transcript) : Prop where
  documents : ∀ uri, t.service.session.documents.get? uri = latest? t.heard uri
  shown : t.service.session.InStep t.notices
  waiting : t.service.phase = .waiting → ∀ uri, t.service.session.documents.get? uri = none

theorem fresh_empty : Fresh .empty where
  documents _ := rfl
  shown _ _ h := by cases h
  waiting _ _ := rfl

theorem Fresh.next {t : Transcript} (ht : t.Fresh) (e : Event) : (t.next e).Fresh := by
  have hpass := t.service.passage_receive e.1 e.2
  generalize hr : t.service.receive e.1 e.2 = r at hpass
  generalize hh : t.service.heard? e.2 = heard at hpass
  have hnext : t.next e = ⟨r.service, t.heard ++ heard.toList, t.notices ++ r.notices⟩ := by
    rw [Transcript.next, hr, hh]
  rw [hnext]
  cases hpass with
  | idle hs hp hn =>
    refine ⟨?_, ?_, ?_⟩
    · simpa [hs] using ht.documents
    · simpa [hs, hn] using ht.shown
    · intro hw
      rw [hs]
      exact ht.waiting (hp.resolve_left fun hne => hne hw)
  | started setup hw hr hn =>
    have hclosed := ht.waiting hw
    refine ⟨?_, ?_, ?_⟩
    · simpa [hr, Session.start] using ht.documents
    · intro uri
      have huri := ht.shown uri
      rw [hclosed uri] at huri
      simp only [hr, hn, List.append_nil, Session.start, hclosed uri]
      exact huri
    · intro hrun
      rw [hr] at hrun
      cases hrun
  | answered request ha hr hn =>
    have hturn := Session.turn_answer t.service.session e.1 request
    refine ⟨?_, ?_, ?_⟩
    · simpa [hr, hturn.documents_eq] using ht.documents
    · rw [hr, hn]
      exact ht.shown.turn hturn
    · rw [hr]
      dsimp only
      rw [hturn.documents_eq]
      exact ht.waiting
  | heeded n hh hr hn =>
    refine ⟨?_, ?_, ?_⟩
    · intro uri
      rw [hr, Option.toList_some, latest?_append_singleton]
      dsimp only
      rw [Session.get?_documents_heed, ht.documents uri]
    · rw [hr, hn]
      exact ht.shown.heed e.1 n
    · intro hw
      rw [hr] at hw
      have hrun := (Service.heard?_eq_some_iff.1 hh).1
      exact absurd (hw.symm.trans hrun) (by simp)

theorem fresh_transcript (log : List Event) : (transcript log).Fresh :=
  transcript_induction fresh_empty (fun _ e ht => ht.next e) log

end Transcript

/-- After every sequence of messages: the documents that are open are those that the notifications
left open. The publication that was sent last for an open document has its latest text and version
and is about the catalog in use. One that was sent for any other URI is blank. Every successful
change of version, be it asked for, detected or configured, publishes once for each open
document. -/
theorem diagnostics_never_stale (log : List Event) :
    let t := transcript log
    let s := t.service.session
    (∀ uri, s.documents.get? uri = latest? t.heard uri) ∧
    (∀ uri doc, latest? t.heard uri = some doc →
      shown? t.notices uri = some ⟨uri, doc.diagnostics s.catalog, some doc.version⟩) ∧
    (∀ uri p, latest? t.heard uri = none → shown? t.notices uri = some p → p = ⟨uri, [], none⟩) ∧
    (∀ around m version c,
      t.service.asked? m = some (.command (.switchVersion (some version))) →
      Catalog.load around.host version s.settings.dataFolder = .ok c →
      s.PublishesOnce (t.service.receive around m).notices) ∧
    (∀ around m active, t.service.asked? m = some (.command (.autoDetectVersion active)) →
      (s.autoDetect around active).value.switched = true →
      s.PublishesOnce (t.service.receive around m).notices) ∧
    (∀ around m value settings c, t.service.heard? m = some (.configured value) →
      Settings.ofJson value = .ok settings →
      ¬(settings.version = s.settings.version ∧ settings.sameFolder s.settings) →
      Catalog.load around.host settings.version settings.dataFolder = .ok c →
      s.PublishesOnce (t.service.receive around m).notices) := by
  intro t s
  have ht := Transcript.fresh_transcript log
  refine ⟨ht.documents, ?_, ?_, ?_, ?_, ?_⟩
  · intro uri doc hdoc
    have huri := ht.shown uri
    rw [ht.documents uri, hdoc] at huri
    exact huri
  · intro uri p hnone hp
    have huri := ht.shown uri
    rw [ht.documents uri, hnone] at huri
    exact huri p hp
  · intro around m version c hm hload
    rw [Service.receive_of_asked? around hm]
    exact s.publishesOnce_obey_switchVersion around version c hload
  · intro around m active hm hswitched
    rw [Service.receive_of_asked? around hm]
    exact s.publishesOnce_autoDetect around active hswitched
  · intro around m value settings c hm hvalue hother hload
    rw [Service.receive_of_heard? around hm]
    exact s.publishesOnce_configure around.host value settings c hvalue hother hload

def bareSurroundings : Surroundings :=
  ⟨.blank [] [], none⟩

def openingLog : List Event :=
  [(bareSurroundings, ⟨"initialize", some (.object [("capabilities", .object [])]), true⟩),
   (bareSurroundings, ⟨"textDocument/didOpen", some (.object [("textDocument", .object
      [("uri", .string "file:///inp"), ("languageId", .string "octopus"), ("version", .ofNat 1),
       ("text", .string "Spacing = wide")])]), false⟩)]

def switchMessage : Incoming :=
  ⟨"workspace/executeCommand", some (.object [("command", .string "octopus.switchVersion"),
    ("arguments", .array [.string "16.2"])]), true⟩

theorem diagnostics_never_stale_openingLog :
    let t := transcript openingLog
    let doc : Document := ⟨"Spacing = wide", 1⟩
    latest? t.heard "file:///inp" = some doc ∧
    shown? t.notices "file:///inp" =
      some ⟨"file:///inp", doc.diagnostics t.service.session.catalog, some 1⟩ ∧
    t.service.session.PublishesOnce (t.service.receive bareSurroundings switchMessage).notices := by
  intro t doc
  have hopen : latest? t.heard "file:///inp" = some doc := by decide +kernel
  have hrun : t.service.phase = .running := by decide +kernel
  have hfolder : t.service.session.settings.dataFolder = none := by decide +kernel
  have hasked : t.service.asked? switchMessage =
      some (.command (.switchVersion (some "16.2"))) :=
    Service.asked?_eq_some_iff.2 ⟨hrun, rfl, by decide, rfl⟩
  have hload : Catalog.load bareSurroundings.host "16.2" t.service.session.settings.dataFolder =
      .ok Catalog.bundled162 := by
    rw [hfolder]
    rfl
  obtain ⟨_, hshown, _, hswitch, _⟩ := diagnostics_never_stale openingLog
  exact ⟨hopen, hshown _ _ hopen, hswitch _ switchMessage "16.2" _ hasked hload⟩

end InputDeck.Server
