import InputDeck.Uri.Address
import InputDeck.Uri.Domain
import InputDeck.Uri.Encoding

/-!
# Hosts

A host is an address or the name of a domain. Under a scheme that is not known, it is any text
without characters that have a meaning elsewhere in a URI.
-/

namespace InputDeck.Uri.Host

open InputDeck.Text

def bracketed? (cs : List Char) : Option String :=
  match cs.reverse with
  | ']' :: back => (Address6.parse? (back.reverse.drop 1)).map fun groups =>
      "[" ++ Address6.text groups ++ "]"
  | _ => none

/-- A host on the internet. A domain whose last label is a number has to be an address. -/
def known? (cs : List Char) : Option String :=
  if cs.head? == some '[' then bracketed? cs
  else match (Utf8.decode? (decodedBytes cs)).bind fun s => Domain.normal? s.toList with
    | none => none
    | some domain =>
      if domain.isEmpty then none
      else if Address4.isMeant domain.toList then
        (Address4.parse? domain.toList).map Address4.text
      else some domain

def isForbidden (c : Char) : Bool :=
  ['\x00', '\t', '\n', '\r', ' ', '#', '/', ':', '<', '>', '?', '@', '[', '\\', ']', '^',
   '|'].contains c

def foreign? (cs : List Char) : Option String :=
  if cs.head? == some '[' then bracketed? cs
  else if cs.any isForbidden then none
  else some (encode [] cs)

end InputDeck.Uri.Host
