import InputDeck.Json.Printer
import InputDeck.Text.Blank
import InputDeck.Text.Lowercase
import InputDeck.Text.Search

/-!
# Frames

On a stream every message is preceded by a header that gives the length of its text in bytes.
-/

namespace InputDeck.Server.Frame

open InputDeck.Text

def render (body : Json) : String :=
  let text := body.compact
  "Content-Length: " ++ toString text.utf8ByteSize ++ "\r\n\r\n" ++ text

def endsHeader (line : String) : Bool :=
  isBlankText line

def length? (line : String) : Option Nat :=
  match splitAtEach ':' line.toList with
  | [name, value] =>
    if lowercase (trim name) = "content-length".toList then (trimmed (String.ofList value)).toNat?
    else none
  | _ => none

end InputDeck.Server.Frame
