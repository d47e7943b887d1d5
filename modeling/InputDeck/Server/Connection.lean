import InputDeck.Json.Reader
import InputDeck.Server.Encoding

/-!
# Talking to a client

Messages and responses go back and forth as JSON-RPC. When the server asks its client for
something, the response to the message at hand waits until the client has replied. Text that is no
message ends the connection.
-/

namespace InputDeck.Server

/-- A server, the number of its next request to the client, the responses that wait for the reply to
one, and whether the client has sent something that is no message. -/
structure Connection where
  service : Service
  nextRequest : Nat
  held : List (Nat × Json)
  broken : Bool

namespace Connection

def fresh : Connection :=
  ⟨.fresh, 0, [], false⟩

def isOver (c : Connection) : Bool :=
  c.service.phase == .exited || c.broken

def versionMember : String × Json :=
  ("jsonrpc", .string "2.0")

def noticeFrame (id : Option Nat) (n : Notice) : Json :=
  .object ([versionMember, ("method", .string n.method), ("params", n.params)] ++
    Json.member "id" Json.ofNat id)

def answerFrame (id : Json) (a : Answer) : Json :=
  .object [versionMember, ("result", a.toJson), ("id", id)]

def errorFrame (id : Json) (code : Int) (message : String) (subject : Option String) : Json :=
  .object [versionMember,
    ("error", .object ([("code", .ofInt code), ("message", .string message)] ++
      Json.member "data" Json.string subject)),
    ("id", id)]

def responseFrame? (id : Json) : Response → Option Json
  | .silence => none
  | .answer a => some (answerFrame id a)
  | .refusal r => some (errorFrame id r.code r.message r.subject?)
  | .exited => none

def invalidFrame : Json :=
  errorFrame .null (-32600) "Invalid request" none

def unreadableFrame : Json :=
  errorFrame .null (-32700) "Parse error" none

/-- Sends notices and then the response, which is held back if there was a request among them. -/
def send (c : Connection) : List Notice → Option Json → Connection × List Json
  | [], response => (c, response.toList)
  | .refreshHints :: rest, response =>
    let id := c.nextRequest
    let asked : Connection :=
      { c with
        nextRequest := id + 1
        held := c.held ++ (response.map fun r => (id, r)).toList }
    let (last, frames) := asked.send rest none
    (last, noticeFrame (some id) .refreshHints :: frames)
  | n :: rest, response =>
    let (last, frames) := c.send rest response
    (last, noticeFrame none n :: frames)

/-- The responses that waited for the reply to a request of the server. -/
def release (c : Connection) (id : Nat) : Connection × List Json :=
  let (due, held) := c.held.partition (·.1 == id)
  ({ c with held }, due.map Prod.snd)

def isIdNumber (n : Int) : Bool :=
  -(Nat.pow 2 63 : Int) ≤ n && n < (Nat.pow 2 63 : Int)

def isId : Json → Bool
  | .null => true
  | .string _ => true
  | v => v.int?.any isIdNumber

/-- A field of a message, which may be missing but not given twice. -/
def field? (v : Json) (key : String) : Option (Option Json) :=
  match (v.object?.getD []).filter (·.1 == key) with
  | [] => some none
  | [member] => some (some member.2)
  | _ => none

def isFailure (v : Json) : Bool :=
  (v.record? ["code", "message", "data"]).any fun failure =>
    ((field? failure "code").join.bind Json.int?).any isIdNumber &&
      ((field? failure "message").join.bind Json.string?).isSome && (field? failure "data").isSome

inductive Inbound where
  | reply (id : Json)
  | message (method : String) (params : Option Json) (id : Option Json)

namespace Inbound

def reply? (body : Json) : Option Inbound := do
  let id ← (field? body "id").join
  if isId id &&
      ((field? body "result").join.isSome || (field? body "error").join.any isFailure) then
    return reply id
  else none

/-- A message without a method has the empty one. -/
def message? (body : Json) : Option Inbound := do
  let id ← field? body "id"
  let method ← ((← field? body "method").getD (.string "")).string?
  let params ← field? body "params"
  if id.all isId then return message method params id else none

/-- A message may leave out its last fields when it is written as an array. A reply is always an
object. -/
def messageFields (body : Json) : Option Json :=
  let fields := ["jsonrpc", "method", "params", "id"]
  match body with
  | .array items => body.record? (fields.take (max items.length 1))
  | _ => body.record? fields

def ofJson? (body : Json) : Option Inbound := do
  let fields ← messageFields body
  let .string "2.0" ← (field? fields "jsonrpc").join | none
  (reply? body).or (message? fields)

end Inbound

def breakOff (c : Connection) (frame : Json) : Connection × List Json :=
  ({ c with broken := true }, [frame])

def accept (c : Connection) (around : Surroundings) (body : Json) : Connection × List Json :=
  match Inbound.ofJson? body with
  | none => c.breakOff invalidFrame
  | some (.reply id) =>
    match id.nat? with
    | some id => c.release id
    | none => (c, [])
  | some (.message method params id) =>
    let reaction := c.service.receive around ⟨method, params, id.isSome⟩
    send { c with service := reaction.service } reaction.notices
      (responseFrame? (id.getD .null) reaction.response)

/-- Takes in the text of a message. A connection that is over takes in nothing more. -/
def acceptText (c : Connection) (around : Surroundings) (text : String) :
    Connection × List Json :=
  if c.isOver then (c, [])
  else match Json.read? text with
    | some body => c.accept around body
    | none => c.breakOff unreadableFrame

end Connection

end InputDeck.Server
