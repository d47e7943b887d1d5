import InputDeck.Uri.Basic
import InputDeck.Uri.Host

/-!
# Reading URIs

The scheme decides how the rest is read. The schemes of the web always have a host; a file has a
path and seldom a host; all others are read as they stand. A backslash is as good as a slash under a
scheme that is known.
-/

namespace InputDeck.Uri

open InputDeck.Text

def cleaned (s : String) : List Char :=
  let isMargin (c : Char) : Bool := c.toNat ≤ 0x20
  ((s.toList.dropWhile isMargin).reverse.dropWhile isMargin).reverse.filter fun c =>
    !(c == '\t' || c == '\n' || c == '\r')

/-! ## Schemes -/

inductive Manner where
  | web
  | file
  | foreign
  deriving DecidableEq, Repr

def webServices : List (String × Nat) :=
  [("http", 80), ("https", 443), ("ws", 80), ("wss", 443), ("ftp", 21)]

def Manner.ofScheme (scheme : String) : Manner :=
  if (webServices.lookup scheme).isSome then .web
  else if scheme == "file" then .file
  else .foreign

def isSchemeChar (c : Char) : Bool :=
  c.isAlphanum || c == '+' || c == '-' || c == '.'

def splitScheme? : List Char → Option (String × List Char)
  | [] => none
  | c :: cs =>
    if c.isAlpha then
      match cs.dropWhile isSchemeChar with
      | ':' :: rest => some ((String.ofList (c :: cs.takeWhile isSchemeChar)).toLower, rest)
      | _ => none
    else none

def splitMark (mark : Char) (cs : List Char) : List Char × Option (List Char) :=
  match cs.dropWhile (· != mark) with
  | [] => (cs, none)
  | _ :: rest => (cs.takeWhile (· != mark), some rest)

/-! ## Paths -/

def isDot (part : String) : Bool :=
  [".", "%2e"].contains part.toLower

def isDoubleDot (part : String) : Bool :=
  ["..", ".%2e", "%2e.", "%2e%2e"].contains part.toLower

/-- A letter and a colon, or a bar in its stead, name a drive. -/
def drive? : List Char → Option Char
  | [c, mark] => if c.isAlpha && (mark == ':' || mark == '|') then some c else none
  | _ => none

def isDrive (part : String) : Bool :=
  (drive? part.toList).isSome

/-- The parts without the last of them, which comes first; nothing leads out of a drive. -/
def leave : List String → List String
  | [] => []
  | part :: done => if isDrive part then part :: done else done

/-- Resolves the dots in a list of parts; `done` are those before them, the last one first. -/
def resolveDots (done : List String) : List String → List String
  | [] => done.reverse
  | [part] =>
    if isDoubleDot part then ("" :: leave done).reverse
    else if isDot part then ("" :: done).reverse
    else (part :: done).reverse
  | part :: parts =>
    if isDoubleDot part then resolveDots (leave done) parts
    else if isDot part then resolveDots done parts
    else resolveDots (part :: done) parts

def partsOf (manner : Manner) (cs : List Char) : List String :=
  let slashed := if manner = .foreign then cs else cs.map fun c => if c == '\\' then '/' else c
  (splitAtEach '/' slashed).map (encode pathMarks)

def pathOf (manner : Manner) (cs : List Char) : List String :=
  resolveDots [] (partsOf manner cs)

/-! ## Files -/

def resolveFile (done : List String) : List String → List String × Bool
  | [] => (done.reverse, false)
  | part :: parts =>
    match if done.isEmpty then drive? part.toList else none with
    | some letter => (resolveDots [String.ofList [letter, ':']] parts, true)
    | none =>
      if isDoubleDot part then
        if parts.isEmpty then (("" :: leave done).reverse, false)
        else resolveFile (leave done) parts
      else if isDot part then
        if parts.isEmpty then (("" :: done).reverse, false) else resolveFile done parts
      else resolveFile (part :: done) parts

/-- Empty parts at the start of the path of a file are dropped, unless nothing else is left. -/
def dropEmptyLead : List String → List String
  | "" :: part :: parts => dropEmptyLead (part :: parts)
  | parts => parts

def filePathOf (lead : List String) (cs : List Char) : UriPath × Bool :=
  let (parts, onDrive) := resolveFile lead (partsOf .file cs)
  (.segments (dropEmptyLead parts), onDrive)

def isSlash (c : Char) : Bool :=
  c == '/' || c == '\\'

/-- A file is named by its path; a host other than this one is kept, unless the path starts with a
drive. -/
def fileParts? (body : List Char) : Option (Authority × UriPath) :=
  let here : Authority := ⟨"", "", none⟩
  match body with
  | c :: rest =>
    if isSlash c then
      match rest with
      | d :: more =>
        if isSlash d then
          let host := more.takeWhile (!isSlash ·)
          let path := more.dropWhile (!isSlash ·)
          if host.isEmpty then some (here, (filePathOf [] path).1)
          else if (drive? host).isSome then some (here, (filePathOf [] more).1)
          else (Host.known? host).map fun name =>
            if name == "localhost" then (here, (filePathOf [] path).1)
            else
              let (path, onDrive) := filePathOf [] (path.drop 1)
              (if onDrive then here else ⟨"", name, none⟩, path)
        else some (here, (filePathOf [] rest).1)
      | [] => some (here, (filePathOf [] rest).1)
    else some (here, (filePathOf [] body).1)
  | [] => some (here, (filePathOf [] body).1)

/-! ## Hosts with a user and a service -/

def endsAuthority (manner : Manner) (c : Char) : Bool :=
  c == '/' || (manner ≠ .foreign && c == '\\')

/-- Name and password of a user as they are kept. A colon stands only before a password. -/
def userText (cs : List Char) : String :=
  let (name, password) := splitMark ':' cs
  let password := password.getD []
  let text := encode userMarks name ++
    (if password.isEmpty then "" else ":" ++ encode userMarks password)
  if text.isEmpty then "" else text ++ "@"

def splitUser (cs : List Char) : Option (List Char) × List Char :=
  let back := cs.reverse
  match back.dropWhile (· != '@') with
  | [] => (none, cs)
  | _ :: user => (some user.reverse, (back.takeWhile (· != '@')).reverse)

/-- The host and what follows it, from the colon in front of the service on; colons in brackets do
not count. -/
def splitHost (inBrackets : Bool) : List Char → List Char × List Char
  | [] => ([], [])
  | c :: cs =>
    if c == ':' && !inBrackets then ([], c :: cs)
    else
      let (host, rest) := splitHost (c == '[' || (inBrackets && c != ']')) cs
      (c :: host, rest)

/-- The number of a service: none if it is not given or the usual one. -/
def service? (usual : Option Nat) : List Char → Option (Option Nat)
  | [] => some none
  | cs =>
    if cs.all Char.isDigit then
      let n := cs.foldl (fun n c => n * 10 + (c.toNat - '0'.toNat)) 0
      if 65535 < n then none else some (if usual == some n then none else some n)
    else none

/-- The authority and the path after the two slashes in front of it. The path may be empty and still
be `followed` by something else. -/
def authorityParts? (manner : Manner) (usual : Option Nat) (followed : Bool) (body : List Char) :
    Option (Authority × List Char) :=
  let place := body.takeWhile (!endsAuthority manner ·)
  let path := body.dropWhile (!endsAuthority manner ·)
  let (user, located) := splitUser place
  let (host, tail) := splitHost false located
  -- A backslash ends the number of a service under any scheme.
  let digits := (tail.drop 1).takeWhile (!isSlash ·)
  let path := (tail.drop 1).dropWhile (!isSlash ·) ++ path
  let host? := if manner = .foreign then Host.foreign? host else Host.known? host
  match host?, service? usual digits with
  | some host, some service =>
    let name := userText (user.getD [])
    let isBareSign := user == some [] && located.isEmpty && (followed || !path.isEmpty)
    if host.isEmpty && (manner ≠ .foreign || !tail.isEmpty || !name.isEmpty || isBareSign) then none
    else some (⟨name, host, service⟩, path)
  | _, _ => none

/-! ## The whole -/

/-- The path after an authority. Under a scheme of the web there is always one. -/
def pathAfter (manner : Manner) (cs : List Char) : UriPath :=
  match cs with
  | [] => if manner = .foreign then .segments [] else .segments [""]
  | c :: rest =>
    .segments (pathOf manner (if endsAuthority manner c then rest else c :: rest))

def parts? (scheme : String) (followed : Bool) (body : List Char) :
    Option (Option Authority × UriPath) :=
  match Manner.ofScheme scheme with
  | .file => (fileParts? body).map fun (authority, path) => (some authority, path)
  | .web =>
    (authorityParts? .web (webServices.lookup scheme) followed (body.dropWhile isSlash)).map
      fun (authority, path) => (some authority, pathAfter .web path)
  | .foreign =>
    match body with
    | '/' :: '/' :: rest =>
      (authorityParts? .foreign none followed rest).map fun (authority, path) =>
        (some authority, pathAfter .foreign path)
    | '/' :: rest => some (none, .segments (pathOf .foreign rest))
    | _ => some (none, .bare (encode [] body))

def parse? (s : String) : Option Uri :=
  match splitScheme? (cleaned s) with
  | none => none
  | some (scheme, rest) =>
    let (beforeAnchor, anchor) := splitMark '#' rest
    let (body, query) := splitMark '?' beforeAnchor
    let marks := if Manner.ofScheme scheme = .foreign then queryMarks else '\x27' :: queryMarks
    (parts? scheme (query.isSome || anchor.isSome) body).map fun (authority, path) =>
      ⟨scheme, authority, path, query.map (encode marks), anchor.map (encode anchorMarks)⟩

end InputDeck.Uri
