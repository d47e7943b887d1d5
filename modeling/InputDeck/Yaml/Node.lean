import InputDeck.Yaml.Token

/-!
# Nodes

A YAML document is one node: a scalar, a sequence or a mapping, whose keys are nodes too. A node
may carry a tag and an anchor, and a reference stands for the node with that anchor. Anchors are
numbered by how many names were known when they came, and of the nodes with one number the one that
started last is meant.
-/

namespace InputDeck.Yaml

inductive Node where
  | scalar (style : Style) (tag : Option Tag) (text : String)
  | sequence (items : List Node)
  | mapping (members : List (Node × Node))
  | reference (anchor : Nat)
  deriving Inhabited

def Node.blank : Node :=
  .scalar .plain none ""

/-- A node with an anchor, and how many such nodes started before it. -/
structure Anchored where
  anchor : Nat
  start : Nat
  node : Node

/-- A document: its node, unless the text holds nothing, and the nodes with anchors. -/
structure Document where
  root : Option Node
  anchored : List Anchored

namespace Document

def follow (d : Document) : Node → Node
  | .reference n =>
    let found := (d.anchored.filter (·.anchor == n)).foldl (fun best a =>
      match best with
      | some b => if b.start < a.start then some a else best
      | none => some a) (none : Option Anchored)
    (found.map (·.node)).getD .blank
  | n => n

end Document

structure Progress where
  rest : List Token
  /-- What the handles of tags stand for; the first entry counts. -/
  handles : List (String × List UInt8)
  names : List (String × Nat)
  started : Nat
  anchored : List Anchored

namespace Progress

def next? (p : Progress) : Option Token :=
  p.rest.head?

def skip (p : Progress) : Progress :=
  { p with rest := p.rest.tail }

def isAt (p : Progress) (ts : List Token) : Bool :=
  p.next?.any ts.contains

def nameAnchor (p : Progress) (name : String) : Progress :=
  let others := p.names.filter (·.1 != name)
  { p with names := (name, p.names.length) :: others, started := p.started + 1 }

def tagOf? (p : Progress) (written : WrittenTag) : Option Tag :=
  if written.handle.isEmpty then some ⟨written.suffix⟩
  else (p.handles.lookup written.handle).map fun stem => ⟨stem ++ written.suffix⟩

end Progress

structure Properties where
  anchor : Option String
  tag : Option WrittenTag

def properties (p : Progress) : Properties × Progress :=
  match p.rest with
  | .anchor a :: .tag t :: rest => (⟨some a, some t⟩, { p with rest })
  | .anchor a :: rest => (⟨some a, none⟩, { p with rest })
  | .tag t :: .anchor a :: rest => (⟨some a, some t⟩, { p with rest })
  | .tag t :: rest => (⟨none, some t⟩, { p with rest })
  | _ => (⟨none, none⟩, p)

/-- The tag that a scalar keeps: a mark alone says nothing of it. -/
def scalarTag (tag : Option Tag) : Option Tag :=
  tag.filter (· != .ofText "!")

def unwritten? (hasProperties : Bool) (tag : Option Tag) (p : Progress) :
    Option (Node × Progress) :=
  if hasProperties then some (.scalar .plain tag "", p) else none

mutual

/-- The content of a node after its properties. In a block it may be a block of its own, and after
a key a sequence that is not indented further. Each step takes a token, or goes from a collection
to its first part, so `fuel` need not exceed a small multiple of the number of tokens. -/
def content? : Nat → Bool → Bool → Bool → Option Tag → Progress → Option (Node × Progress)
  | 0, _, _, _, _, _ => none
  | fuel + 1, inBlock, afterKey, hasProperties, tag, p =>
    match p.next? with
    | some .item =>
      if afterKey then
        (looseItems? fuel p).map fun (items, p) => (.sequence items, p)
      else unwritten? hasProperties tag p
    | some (.scalar style text) => some (.scalar style (scalarTag tag) text, p.skip)
    | some .flowSequence =>
      (flowItems? fuel true p.skip).map fun (items, p) => (.sequence items, p)
    | some .flowMapping =>
      (flowMembers? fuel true p.skip).map fun (members, p) => (.mapping members, p)
    | some .blockSequence =>
      if inBlock then (blockItems? fuel p.skip).map fun (items, p) => (.sequence items, p)
      else unwritten? hasProperties tag p
    | some .blockMapping =>
      if inBlock then (blockMembers? fuel p.skip).map fun (members, p) => (.mapping members, p)
      else unwritten? hasProperties tag p
    | _ => unwritten? hasProperties tag p

def node? : Nat → Bool → Bool → Progress → Option (Node × Progress)
  | 0, _, _, _ => none
  | fuel + 1, inBlock, afterKey, p =>
    match p.next? with
    | some (.reference name) => (p.names.lookup name).map fun n => (.reference n, p.skip)
    | _ =>
      let (properties, p) := properties p
      let tag? : Option (Option Tag) := match properties.tag with
        | none => some none
        | some written => (p.tagOf? written).map some
      match tag?, properties.anchor with
      | none, _ => none
      | some tag, none => content? fuel inBlock afterKey tag.isSome tag p
      | some tag, some name =>
        let anchor := p.names.length
        let start := p.started
        (content? fuel inBlock afterKey true tag (p.nameAnchor name)).map fun (node, p) =>
          (node, { p with anchored := ⟨anchor, start, node⟩ :: p.anchored })

def nodeBefore? : Nat → Bool → Bool → List Token → Progress → Option (Node × Progress)
  | 0, _, _, _, _ => none
  | fuel + 1, inBlock, afterKey, ends, p =>
    if p.isAt ends then some (.blank, p) else node? fuel inBlock afterKey p

def blockItems? : Nat → Progress → Option (List Node × Progress)
  | 0, _ => none
  | fuel + 1, p =>
    match p.next? with
    | some .item =>
      match nodeBefore? fuel true false [.item, .blockEnd] p.skip with
      | none => none
      | some (node, p) => (blockItems? fuel p).map fun (items, p) => (node :: items, p)
    | some .blockEnd => some ([], p.skip)
    | _ => none

/-- The items of a sequence that is indented as the mapping it is in. -/
def looseItems? : Nat → Progress → Option (List Node × Progress)
  | 0, _ => none
  | fuel + 1, p =>
    match p.next? with
    | some .item =>
      match nodeBefore? fuel true false [.item, .key, .value, .blockEnd] p.skip with
      | none => none
      | some (node, p) => (looseItems? fuel p).map fun (items, p) => (node :: items, p)
    | _ => some ([], p)

def blockMembers? : Nat → Progress → Option (List (Node × Node) × Progress)
  | 0, _ => none
  | fuel + 1, p =>
    match p.next? with
    | some .key =>
      match nodeBefore? fuel true true [.key, .value, .blockEnd] p.skip with
      | none => none
      | some (key, p) =>
        let value? := match p.next? with
          | some .value => nodeBefore? fuel true true [.key, .value, .blockEnd] p.skip
          | _ => some (.blank, p)
        match value? with
        | none => none
        | some (value, p) =>
          (blockMembers? fuel p).map fun (members, p) => ((key, value) :: members, p)
    | some .blockEnd => some ([], p.skip)
    | _ => none

/-- The items of a flow sequence. A key among them makes a mapping of one member. -/
def flowItems? : Nat → Bool → Progress → Option (List Node × Progress)
  | 0, _, _ => none
  | fuel + 1, isFirst, p =>
    if p.isAt [.flowSequenceEnd] then some ([], p.skip)
    else if !isFirst && !p.isAt [.comma] then none
    else
      let p := if isFirst then p else p.skip
      if p.isAt [.flowSequenceEnd] then some ([], p.skip)
      else
        let item? := if p.isAt [.key] then flowPair? fuel p.skip else node? fuel false false p
        match item? with
        | none => none
        | some (node, p) => (flowItems? fuel false p).map fun (items, p) => (node :: items, p)

/-- The one member of a mapping inside a flow sequence. A token that stands in place of its key is
passed over. -/
def flowPair? : Nat → Progress → Option (Node × Progress)
  | 0, _ => none
  | fuel + 1, p =>
    let key? :=
      if p.isAt [.value, .comma, .flowSequenceEnd] then some (.blank, p.skip)
      else node? fuel false false p
    match key? with
    | none => none
    | some (key, p) =>
      (flowValue? fuel [.comma, .flowSequenceEnd] p).map fun (value, p) =>
        (.mapping [(key, value)], p)

def flowValue? : Nat → List Token → Progress → Option (Node × Progress)
  | 0, _, _ => none
  | fuel + 1, ends, p =>
    match p.next? with
    | some .value => nodeBefore? fuel false false ends p.skip
    | _ => some (.blank, p)

/-- The members of a flow mapping. A node without a colon is a key without a value. -/
def flowMembers? : Nat → Bool → Progress → Option (List (Node × Node) × Progress)
  | 0, _, _ => none
  | fuel + 1, isFirst, p =>
    if p.isAt [.flowMappingEnd] then some ([], p.skip)
    else if !isFirst && !p.isAt [.comma] then none
    else
      let p := if isFirst then p else p.skip
      if p.isAt [.flowMappingEnd] then some ([], p.skip)
      else
        let member? : Option ((Node × Node) × Progress) :=
          if p.isAt [.key] then
            match nodeBefore? fuel false false [.value, .comma, .flowMappingEnd] p.skip with
            | none => none
            | some (key, p) =>
              (flowValue? fuel [.comma, .flowMappingEnd] p).map fun (value, p) =>
                ((key, value), p)
          else (node? fuel false false p).map fun (key, p) => ((key, .blank), p)
        match member? with
        | none => none
        | some (member, p) =>
          (flowMembers? fuel false p).map fun (members, p) => (member :: members, p)

end

def standardHandles : List (String × List UInt8) :=
  [("!", (Tag.ofText "!").octets), ("!!", (Tag.standard "").octets)]

/-- The handles that the directives at the start explain, each once, and the tokens after them. One
directive may give the version, which is 1.1 or 1.2. -/
def directives? : Bool → List (String × List UInt8) → List Token →
    Option (List (String × List UInt8) × List Token)
  | hasVersion, handles, .version major minor :: rest =>
    if hasVersion || major != 1 || (minor != 1 && minor != 2) then none
    else directives? true handles rest
  | hasVersion, handles, .tagHandle handle stem :: rest =>
    if (handles.lookup handle).isSome then none
    else directives? hasVersion (handles ++ [(handle, stem)]) rest
  | _, handles, rest => some (handles, rest)

def Token.isDirective : Token → Bool
  | version _ _ => true
  | tagHandle _ _ => true
  | _ => false

def isFinished (ts : List Token) : Bool :=
  ts.all (· == .documentEnd)

def Document.ofTokens? (ts : List Token) : Option Document := do
  let (handles, rest) ← directives? false [] ts
  let isExplicit := rest.length < ts.length || rest.head? == some .documentStart
  let start (rest : List Token) : Progress :=
    { rest, handles := handles ++ standardHandles, names := [], started := 0, anchored := [] }
  let fuel := 4 * ts.length + 4
  if ts.isEmpty then return { root := none, anchored := [] }
  else if isExplicit then
    if rest.head? != some .documentStart then none
    else
      let p := start rest.tail
      let isBlank := p.rest.head?.all fun t =>
        t.isDirective || t == .documentStart || t == .documentEnd
      let (root, p) ← if isBlank then some (.blank, p) else node? fuel true false p
      if isFinished p.rest then return { root := some root, anchored := p.anchored } else none
  else
    let (root, p) ← node? fuel true false (start rest)
    if isFinished p.rest then return { root := some root, anchored := p.anchored } else none

def Document.read? (s : String) : Option Document :=
  (Token.ofText? s).bind Document.ofTokens?

end InputDeck.Yaml
