import InputDeck.Path
import InputDeck.Uri.Encoding

/-!
# URIs

An editor names its documents by URI. A URI is kept in one normal form, so two spellings of it name
the same document.
-/

namespace InputDeck

open InputDeck.Text

inductive UriPath where
  | segments (parts : List String)
  /-- A path without a slash in front has no parts. -/
  | bare (text : String)
  deriving DecidableEq, Repr

structure Authority where
  /-- Who asks, with the sign that ends it. -/
  user : String
  host : String
  /-- The number of the service, unless it is the usual one. -/
  service : Option Nat
  deriving DecidableEq, Repr

structure Uri where
  scheme : String
  authority : Option Authority
  path : UriPath
  query : Option String
  anchor : Option String
  deriving DecidableEq, Repr

namespace UriPath

def text : UriPath → String
  | segments parts => String.join (parts.map ("/" ++ ·))
  | bare text => text

/-- The path would be taken for an authority if it stood right after the scheme. -/
def looksLikeAuthority : UriPath → Bool
  | segments ("" :: _ :: _) => true
  | _ => false

end UriPath

namespace Authority

def text (a : Authority) : String :=
  "//" ++ a.user ++ a.host ++ (a.service.map fun n => ":" ++ toString n).getD ""

end Authority

namespace Uri

def authorityText (u : Uri) : String :=
  match u.authority with
  | some a => a.text
  | none => if u.path.looksLikeAuthority then "/." else ""

def text (u : Uri) : String :=
  u.scheme ++ ":" ++ u.authorityText ++ u.path.text ++
    (u.query.map ("?" ++ ·)).getD "" ++ (u.anchor.map ("#" ++ ·)).getD ""

def closeDrive (bytes : List UInt8) : List UInt8 :=
  match bytes.reverse with
  | mark :: letter :: _ :: _ =>
    if (Char.ofNat letter.toNat).isAlpha && [':', '|'].contains (Char.ofNat mark.toNat) then
      bytes ++ Utf8.encode ['/']
    else bytes
  | _ => bytes

def filePath? (u : Uri) : Option Path :=
  let host := (u.authority.map Authority.host).getD ""
  if host == "" || host == "localhost" then
    match u.path with
    | .segments [] => none
    | .segments parts =>
      some ⟨Utf8.decodeLossy (closeDrive (parts.flatMap fun part =>
        decodedBytes ('/' :: part.toList)))⟩
    | .bare _ => none
  else none

end Uri

end InputDeck
