import InputDeck.Server.Message

/-!
# The life of a server

A server waits for a client, then runs a session, is shut down and exits. A request that comes at
the wrong time is refused, and a notification then is ignored.
-/

namespace InputDeck.Server

open InputDeck.Editor

inductive Phase where
  | waiting
  | running
  | shutDown
  | exited
  deriving DecidableEq, Repr

structure Service where
  phase : Phase
  session : Session

def Service.fresh : Service :=
  ⟨.waiting, .fresh⟩

inductive Answer where
  | capabilities
  | nothing
  | hover (hover : Option Hover)
  | completions (items : Option (List Completion))
  | fixes (uri : Uri) (items : Option (List Fix))
  | hints (items : Option (List Hint))
  | version (version : String)
  | installed (version : Option String)
  | detection (detection : Session.Detection)
  | hintsEnabled (enabled : Bool)
  | listing (catalog : Catalog)

inductive Refusal where
  | notInitialized
  | invalidRequest
  | unknownMethod (name : String)
  | declinedMethod
  | missingParameters
  | unexpectedParameters (params : Json)
  | malformedParameters
  | missingVersion
  | failed (error : Error)
  | unknownCommand (name : String)

inductive Response where
  | silence
  | answer (answer : Answer)
  | refusal (refusal : Refusal)
  /-- There is nobody to respond. -/
  | exited

/-! ## While a session runs -/

namespace Session

def obey (s : Session) (around : Surroundings) : Command → Outcome (Except Refusal Answer)
  | .switchVersion none => ⟨s, [], .error .missingVersion⟩
  | .switchVersion (some version) =>
    let switched := s.switch around.host version
    match switched.value with
    | .ok () => ⟨switched.session, switched.notices, .ok (.version version)⟩
    | .error e => ⟨switched.session, switched.notices, .error (.failed e)⟩
  | .detectSystemVersion =>
    let detected := s.detectInstalled around
    ⟨detected.session, detected.notices, .ok (.installed detected.value)⟩
  | .autoDetectVersion active =>
    let detected := s.autoDetect around active
    ⟨detected.session, detected.notices, .ok (.detection detected.value)⟩
  | .toggleInlayHints =>
    let toggled := s.toggleHints
    ⟨toggled.session, toggled.notices, .ok (.hintsEnabled toggled.value)⟩
  | .showVariables => ⟨s, [], .ok (.listing s.catalog)⟩
  | .unknown name => ⟨s, [], .error (.unknownCommand name)⟩

def answer (s : Session) (around : Surroundings) : Request → Outcome (Except Refusal Answer)
  | .hover uri position => ⟨s, [], .ok (.hover (s.hoverAt? uri position))⟩
  | .completion uri position => ⟨s, [], .ok (.completions (s.completionsAt? uri position))⟩
  | .fixes uri diagnostics => ⟨s, [], .ok (.fixes uri (s.fixes? uri diagnostics))⟩
  | .hints uri range => ⟨s, [], .ok (.hints (s.hints? uri range))⟩
  | .command command => s.obey around command

def heed (s : Session) (around : Surroundings) : Notification → Outcome Unit
  | .initialized => s.greet
  | .opened uri text version => s.hold uri ⟨text, version⟩
  | .changed uri texts version => s.change uri texts version
  | .closed uri => s.close uri
  | .configured value => s.configure around.host value

end Session

/-! ## From the first message to the last -/

/-- A message as it comes in: a request is one that waits for a response. -/
structure Incoming where
  method : String
  params : Option Json
  isRequest : Bool

namespace Service

structure Reaction where
  service : Service
  notices : List Notice
  response : Response

def silent (s : Service) : Reaction :=
  ⟨s, [], .silence⟩

/-- Refuses a request; a notification gets no response. -/
def refuse (s : Service) (m : Incoming) (r : Refusal) : Reaction :=
  ⟨s, [], if m.isRequest then .refusal r else .silence⟩

def refuseNow (s : Service) (m : Incoming) : Reaction :=
  s.refuse m (if s.phase = .waiting then .notInitialized else .invalidRequest)

def startUp (s : Service) (around : Surroundings) (m : Incoming) : Reaction :=
  if s.phase ≠ .waiting then s.refuse m .invalidRequest
  else if !m.isRequest then s.silent
  else match m.params with
    | none => s.refuse m .missingParameters
    | some params =>
      match setup? params with
      | none => s.refuse m .malformedParameters
      | some setup =>
        ⟨⟨.running, s.session.start around.host setup⟩, [], .answer .capabilities⟩

def shutDown (s : Service) (m : Incoming) : Reaction :=
  if s.phase ≠ .running then s.refuseNow m
  else
    let next := { s with phase := .shutDown }
    if !m.isRequest then next.silent
    else match m.params with
      | some params => next.refuse m (.unexpectedParameters params)
      | none => ⟨next, [], .answer .nothing⟩

def answerRequest (s : Service) (around : Surroundings) (m : Incoming) : Reaction :=
  if s.phase ≠ .running then s.refuseNow m
  else if !m.isRequest then s.silent
  else match m.params with
    | none => s.refuse m .missingParameters
    | some params =>
      match Request.ofJson? m.method params with
      | none => s.refuse m .malformedParameters
      | some request =>
        let outcome := s.session.answer around request
        ⟨{ s with session := outcome.session }, outcome.notices,
         match outcome.value with
         | .ok answer => .answer answer
         | .error r => .refusal r⟩

def declineRequest (s : Service) (m : Incoming) : Reaction :=
  if s.phase ≠ .running then s.refuseNow m
  else s.refuse m (if m.params.isSome then .declinedMethod else .missingParameters)

def heedNotification (s : Service) (around : Surroundings) (m : Incoming) : Reaction :=
  if s.phase ≠ .running then s.refuseNow m
  else if m.isRequest then s.refuse m .invalidRequest
  else match m.params.bind (Notification.ofJson? m.method) with
    | none => s.silent
    | some notification =>
      let outcome := s.session.heed around notification
      ⟨{ s with session := outcome.session }, outcome.notices, .silence⟩

def receive (s : Service) (around : Surroundings) (m : Incoming) : Reaction :=
  if s.phase = .exited then ⟨s, [], .exited⟩
  else if m.method = "initialize" then s.startUp around m
  else if m.method = "shutdown" then s.shutDown m
  else if m.method = "exit" then silent { s with phase := .exited }
  else if m.method ∈ answeredMethods then s.answerRequest around m
  else if m.method ∈ declinedMethods then s.declineRequest m
  else if m.method ∈ heededMethods then s.heedNotification around m
  else if m.method ∈ ignoredMethods then
    if s.phase = .running then s.refuse m .invalidRequest else s.refuseNow m
  else if m.method = cancelMethod then s.refuse m .invalidRequest
  else s.refuse m (.unknownMethod m.method)

/-- The message asks for the version of the installed program, alone or before other signals. -/
def asksProgram (s : Service) (m : Incoming) : Bool :=
  s.phase = .running && m.isRequest && m.method ∈ answeredMethods &&
    (m.params.bind (Request.ofJson? m.method)).any fun
      | .command .detectSystemVersion => true
      | .command (.autoDetectVersion _) => true
      | _ => false

/-- What a message finds around it. The installed program is only run for a message that asks for
it; it may change the host. -/
def surroundings (s : Service) (i : Installation) (h : Host) (m : Incoming) : Surroundings :=
  if s.asksProgram m then
    let (installed, host) := i.ask h
    ⟨host, installed⟩
  else ⟨h, none⟩

end Service

end InputDeck.Server
