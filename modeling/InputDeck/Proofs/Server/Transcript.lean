import InputDeck.Server.Lifecycle

/-!
# Transcripts

A transcript is what an observer on the wire knows after a sequence of messages, each of which
found surroundings of its own: the server as it is then, the notifications that it took in, and the
notices that it sent. Nothing is assumed about the messages, so they may be malformed, come at the
wrong time or come again.

`passage_receive` says everything that one message can do. Whatever holds of a fresh server and
survives each of these cases holds after every sequence of messages, by `transcript_induction`.
-/

namespace InputDeck.Server

abbrev Event := Surroundings × Incoming

structure Transcript where
  service : Service
  heard : List Notification
  notices : List Notice

namespace Service

/-- The notification that a message is taken in as. Requests are none, and neither is a message
that is malformed or comes while no session runs. -/
def heard? (s : Service) (m : Incoming) : Option Notification :=
  if s.phase = .running ∧ m.isRequest = false ∧ m.method ∈ heededMethods then
    m.params.bind (Notification.ofJson? m.method)
  else none

def asked? (s : Service) (m : Incoming) : Option Request :=
  if s.phase = .running ∧ m.isRequest = true ∧ m.method ∈ answeredMethods then
    m.params.bind (Request.ofJson? m.method)
  else none

end Service

namespace Transcript

def empty : Transcript :=
  ⟨.fresh, [], []⟩

def next (t : Transcript) (e : Event) : Transcript :=
  let reaction := t.service.receive e.1 e.2
  ⟨reaction.service, t.heard ++ (t.service.heard? e.2).toList, t.notices ++ reaction.notices⟩

end Transcript

/-- The transcript of a sequence of messages to a fresh server. -/
def transcript (log : List Event) : Transcript :=
  log.foldl Transcript.next .empty

theorem transcript_induction {P : Transcript → Prop} (hempty : P .empty)
    (hnext : ∀ t e, P t → P (t.next e)) (log : List Event) : P (transcript log) := by
  have hfold : ∀ t, P t → P (log.foldl Transcript.next t) := by
    induction log with
    | nil => exact fun _ ht => ht
    | cons e rest ih => exact fun t ht => ih (t.next e) (hnext t e ht)
  exact hfold .empty hempty

namespace Service

variable (s : Service) (around : Surroundings) (m : Incoming)

/-- The ways in which a message can go through a server. -/
inductive Passage : Reaction → Option Notification → Prop where
  /-- The session stays as it is, whatever becomes of the phase and of the response. -/
  | idle {r : Reaction} (hs : r.service.session = s.session)
      (hp : r.service.phase ≠ .waiting ∨ s.phase = .waiting) (hn : r.notices = []) :
      Passage r none
  | started (setup : Session.Setup) (hw : s.phase = .waiting) {r : Reaction}
      (hr : r.service = ⟨.running, s.session.start around.host setup⟩) (hn : r.notices = []) :
      Passage r none
  | answered (request : Request) (ha : s.asked? m = some request) {r : Reaction}
      (hr : r.service = { s with session := (s.session.answer around request).session })
      (hn : r.notices = (s.session.answer around request).notices) :
      Passage r none
  | heeded (n : Notification) (hh : s.heard? m = some n) {r : Reaction}
      (hr : r.service = { s with session := (s.session.heed around n).session })
      (hn : r.notices = (s.session.heed around n).notices) :
      Passage r (some n)

theorem heard?_eq_none_of_method (h : m.method ∉ heededMethods) : s.heard? m = none := by
  rw [heard?, if_neg]
  exact fun hc => h hc.2.2

theorem heard?_eq_none_of_phase (h : s.phase ≠ .running) : s.heard? m = none := by
  rw [heard?, if_neg]
  exact fun hc => h hc.1

theorem passage_refuse (r : Refusal) : Passage s around m (s.refuse m r) none :=
  .idle rfl (Decidable.em _).symm rfl

theorem passage_startUp : Passage s around m (s.startUp around m) none := by
  unfold startUp
  split
  · exact passage_refuse s around m _
  · next hw =>
    split
    · exact .idle rfl (Decidable.em _).symm rfl
    · split
      · exact passage_refuse s around m _
      · split
        · exact passage_refuse s around m _
        · next setup _ => exact .started setup (by simpa using hw) rfl rfl

theorem passage_shutDown : Passage s around m (s.shutDown m) none := by
  unfold shutDown
  split
  · exact passage_refuse s around m _
  · dsimp only
    split
    · exact .idle rfl (Or.inl (by intro h; cases h)) rfl
    · split
      · exact .idle rfl (Or.inl (by intro h; cases h)) rfl
      · exact .idle rfl (Or.inl (by intro h; cases h)) rfl

theorem passage_answerRequest (hm : m.method ∈ answeredMethods) :
    Passage s around m (s.answerRequest around m) none := by
  unfold answerRequest
  split
  · exact passage_refuse s around m _
  · next hrun =>
    split
    · exact .idle rfl (Decidable.em _).symm rfl
    · next hreq =>
      split
      · exact passage_refuse s around m _
      · next params hparams =>
        split
        · exact passage_refuse s around m _
        · next request hrequest =>
          refine .answered request ?_ rfl rfl
          have hc : s.phase = .running ∧ m.isRequest = true ∧ m.method ∈ answeredMethods :=
            ⟨by simpa using hrun, by simpa using hreq, hm⟩
          rw [asked?, if_pos hc, hparams, Option.bind_some, hrequest]

theorem passage_heedNotification (hm : m.method ∈ heededMethods) :
    Passage s around m (s.heedNotification around m) (s.heard? m) := by
  unfold heedNotification
  split
  · next hrun =>
    rw [heard?_eq_none_of_phase s m hrun]
    exact passage_refuse s around m _
  · next hrun =>
    split
    · next hreq =>
      have hnone : s.heard? m = none := by
        rw [heard?, if_neg]
        exact fun hc => by simp [hc.2.1] at hreq
      rw [hnone]
      exact passage_refuse s around m _
    · next hreq =>
      have hc : s.phase = .running ∧ m.isRequest = false ∧ m.method ∈ heededMethods :=
        ⟨by simpa using hrun, by simpa using hreq, hm⟩
      have hheard : s.heard? m = m.params.bind (Notification.ofJson? m.method) := if_pos hc
      split
      · next hnone =>
        rw [hheard, hnone]
        exact .idle rfl (Decidable.em _).symm rfl
      · next n hn =>
        have hsome : s.heard? m = some n := hheard.trans hn
        rw [hsome]
        exact .heeded n hsome rfl rfl

/-- The methods are told apart: none that is heeded has a meaning of another kind. -/
theorem heededMethods_disjoint :
    "initialize" ∉ heededMethods ∧ "shutdown" ∉ heededMethods ∧ "exit" ∉ heededMethods ∧
      (∀ name ∈ answeredMethods, name ∉ heededMethods) ∧
      (∀ name ∈ declinedMethods, name ∉ heededMethods) := by
  decide

/-- Every message passes through the server in one of four ways. -/
theorem passage_receive : Passage s around m (s.receive around m) (s.heard? m) := by
  obtain ⟨hinit, hshut, hexit, hanswered, hdeclined⟩ := heededMethods_disjoint
  unfold receive
  by_cases hp : s.phase = .exited
  · rw [if_pos hp, heard?_eq_none_of_phase s m (by simp [hp])]
    exact .idle rfl (Or.inl (by simp [hp])) rfl
  rw [if_neg hp]
  by_cases hm : m.method = "initialize"
  · rw [if_pos hm, heard?_eq_none_of_method s m (hm ▸ hinit)]
    exact passage_startUp s around m
  rw [if_neg hm]
  by_cases hm : m.method = "shutdown"
  · rw [if_pos hm, heard?_eq_none_of_method s m (hm ▸ hshut)]
    exact passage_shutDown s around m
  rw [if_neg hm]
  by_cases hm : m.method = "exit"
  · rw [if_pos hm, heard?_eq_none_of_method s m (hm ▸ hexit)]
    exact .idle rfl (Or.inl (by intro h; cases h)) rfl
  rw [if_neg hm]
  by_cases hm : m.method ∈ answeredMethods
  · rw [if_pos hm, heard?_eq_none_of_method s m (hanswered _ hm)]
    exact passage_answerRequest s around m hm
  rw [if_neg hm]
  by_cases hm : m.method ∈ declinedMethods
  · rw [if_pos hm, heard?_eq_none_of_method s m (hdeclined _ hm)]
    unfold declineRequest
    split <;> exact passage_refuse s around m _
  rw [if_neg hm]
  by_cases hm : m.method ∈ heededMethods
  · rw [if_pos hm]
    exact passage_heedNotification s around m hm
  · rw [if_neg hm, heard?_eq_none_of_method s m hm]
    by_cases hm : m.method ∈ ignoredMethods
    · rw [if_pos hm]
      split <;> exact passage_refuse s around m _
    · rw [if_neg hm]
      split <;> exact passage_refuse s around m _

/-! ## What a message is taken in as -/

variable {s m}

theorem asked?_eq_some_iff {request : Request} :
    s.asked? m = some request ↔ s.phase = .running ∧ m.isRequest = true ∧
      m.method ∈ answeredMethods ∧ m.params.bind (Request.ofJson? m.method) = some request := by
  rw [asked?, Option.ite_none_right_eq_some, and_assoc, and_assoc]

theorem heard?_eq_some_iff {n : Notification} :
    s.heard? m = some n ↔ s.phase = .running ∧ m.isRequest = false ∧
      m.method ∈ heededMethods ∧ m.params.bind (Notification.ofJson? m.method) = some n := by
  rw [heard?, Option.ite_none_right_eq_some, and_assoc, and_assoc]

theorem receive_of_asked? {request : Request} (h : s.asked? m = some request) :
    s.receive around m =
      ⟨{ s with session := (s.session.answer around request).session },
       (s.session.answer around request).notices,
       match (s.session.answer around request).value with
       | .ok answer => .answer answer
       | .error r => .refusal r⟩ := by
  obtain ⟨hrun, hreq, hm, hparams⟩ := asked?_eq_some_iff.1 h
  obtain ⟨params, hp, hrequest⟩ := Option.bind_eq_some_iff.1 hparams
  have hinit : "initialize" ∉ answeredMethods := by decide
  have hshut : "shutdown" ∉ answeredMethods := by decide
  have hexit : "exit" ∉ answeredMethods := by decide
  have hne : ∀ name, name ∉ answeredMethods → m.method ≠ name := fun _ hn he => hn (he ▸ hm)
  rw [receive, if_neg (by simp [hrun]), if_neg (hne _ hinit), if_neg (hne _ hshut),
    if_neg (hne _ hexit), if_pos hm]
  rw [answerRequest, if_neg (by simp [hrun]), if_neg (by simp [hreq])]
  generalize m.params = given at hp ⊢
  subst hp
  dsimp only
  generalize Request.ofJson? m.method params = read at hrequest ⊢
  subst hrequest
  rfl

theorem receive_of_heard? {n : Notification} (h : s.heard? m = some n) :
    s.receive around m =
      ⟨{ s with session := (s.session.heed around n).session },
       (s.session.heed around n).notices, .silence⟩ := by
  obtain ⟨hrun, hreq, hm, hparams⟩ := heard?_eq_some_iff.1 h
  obtain ⟨hinit, hshut, hexit, hanswered, hdeclined⟩ := heededMethods_disjoint
  have hne : ∀ name, name ∉ heededMethods → m.method ≠ name := fun _ hn he => hn (he ▸ hm)
  rw [receive, if_neg (by simp [hrun]), if_neg (hne _ hinit), if_neg (hne _ hshut),
    if_neg (hne _ hexit), if_neg fun ha => hanswered _ ha hm, if_neg fun hd => hdeclined _ hd hm,
    if_pos hm]
  simp only [heedNotification, hrun, hreq, hparams, ne_eq, not_true_eq_false, if_false,
    Bool.false_eq_true]

end Service

end InputDeck.Server
