import Ferry.Yaml.Token

set_option autoImplicit false

/-! # Nodes of a YAML text

The tree that a text describes. `Node.ofTokens?` reads the tokens of a text that holds one
document. An alias stands for the node of its anchor, which has to come first in the text. -/

namespace Ferry.Yaml

/-- A node; `tag` is empty when the text gives none. -/
inductive Node
  | scalar (tag text : String) (style : Style)
  | sequence (tag : String) (items : List Node)
  | mapping (tag : String) (entries : List (Node × Node))
deriving Inhabited

namespace Node

/-- The scalar of a place where nothing is written. -/
def absent : Node := .scalar "" "" .plain

/-- What is known while a document is read: the handles of tags and the anchors so far. -/
structure Known where
  handles : List (String × String)
  anchors : List (String × Node)

/-- The handles that need no directive. -/
def standardHandles : List (String × String) :=
  [("!", "!"), ("!!", "tag:yaml.org,2002:"), ("", "")]

/-- The full tag of a handle and a suffix. -/
def Known.tag? (k : Known) (handle suffix : String) : Except String String :=
  match k.handles.find? (fun h => h.1 == handle) with
  | some h => .ok (h.2 ++ suffix)
  | none => .error "a tag has an unknown handle"

def Known.addAnchor (k : Known) (name : Option String) (n : Node) : Known :=
  match name with
  | some name => { k with anchors := (name, n) :: k.anchors }
  | none => k

/-- What was read, what is known after it, and the tokens that follow. -/
abbrev Reading (α : Type) := α × Known × List Token

/-- The tag and the anchor in front of a node. -/
structure Properties where
  tag : String
  anchor : Option String

/-- Read a tag and an anchor in either order; each may be missing. -/
def properties (k : Known) (ts : List Token) : Except String (Properties × List Token) :=
  match ts with
  | .anchor a :: .tag h x :: rest => do return (⟨← k.tag? h x, some a⟩, rest)
  | .tag h x :: .anchor a :: rest => do return (⟨← k.tag? h x, some a⟩, rest)
  | .anchor a :: rest => .ok (⟨"", some a⟩, rest)
  | .tag h x :: rest => do return (⟨← k.tag? h x, none⟩, rest)
  | _ => .ok (⟨"", none⟩, ts)

/-- Where a node stands. -/
inductive Context
  /-- Outside brackets. -/
  | block
  /-- Outside brackets, as a key or a value of a mapping: the items of a sequence need no
      indentation of their own. -/
  | entry
  /-- Between brackets. -/
  | flow
deriving DecidableEq

/-- Whether a token ends the place of a node that may be left out. -/
def endsPlace : List Token → Bool
  | .blockEntry :: _ | .blockEnd :: _ | .key :: _ | .value :: _ | .flowEntry :: _
  | .flowSequenceEnd :: _ | .flowMappingEnd :: _ => true
  | _ => false

mutual

/-- A node, with its tag and anchor. -/
def node : Nat → Context → Known → List Token → Except String (Reading Node)
  | 0, _, _, _ => .error "the text ends too early"
  | fuel + 1, context, k, ts =>
    match ts with
    | .alias name :: rest =>
      match k.anchors.find? (fun a => a.1 == name) with
      | some a => .ok (a.2, k, rest)
      | none => .error "an alias has no anchor"
    | _ => do
      let (p, ts) ← properties k ts
      let (n, k, ts) ← content fuel context p k ts
      return (n, k.addAnchor p.anchor n, ts)

/-- A node behind its tag and anchor. -/
def content : Nat → Context → Properties → Known → List Token → Except String (Reading Node)
  | 0, _, _, _, _ => .error "the text ends too early"
  | fuel + 1, context, p, k, ts =>
    match ts with
    | .scalar text style :: rest =>
      .ok (.scalar (if p.tag = "!" then "" else p.tag) text style, k, rest)
    | .flowSequenceStart :: rest => do
      let (items, k, ts) ← flowItems fuel true [] k rest
      return (.sequence p.tag items, k, ts)
    | .flowMappingStart :: rest => do
      let (entries, k, ts) ← flowEntries fuel true [] k rest
      return (.mapping p.tag entries, k, ts)
    | .blockSequenceStart :: rest =>
      if context = .flow then .error "a block sequence stands between brackets"
      else do
        let (items, k, ts) ← blockItems fuel [] k rest
        return (.sequence p.tag items, k, ts)
    | .blockMappingStart :: rest =>
      if context = .flow then .error "a block mapping stands between brackets"
      else do
        let (entries, k, ts) ← blockEntries fuel [] k rest
        return (.mapping p.tag entries, k, ts)
    | .blockEntry :: _ =>
      if context = .entry then do
        let (items, k, ts) ← plainItems fuel [] k ts
        return (.sequence p.tag items, k, ts)
      else if p.tag.isEmpty && p.anchor.isNone then .error "an item is out of place"
      else .ok (.scalar p.tag "" .plain, k, ts)
    | _ =>
      if p.tag.isEmpty && p.anchor.isNone then .error "a node is missing"
      else .ok (.scalar p.tag "" .plain, k, ts)

/-- A node that may be left out. -/
def optionalNode : Nat → Context → Known → List Token → Except String (Reading Node)
  | 0, _, _, _ => .error "the text ends too early"
  | fuel + 1, context, k, ts =>
    if endsPlace ts && !(context = .entry && ts.head? = some .blockEntry) then .ok (absent, k, ts)
    else node fuel context k ts

/-- The items of an indented block sequence. -/
def blockItems : Nat → List Node → Known → List Token → Except String (Reading (List Node))
  | 0, _, _, _ => .error "the text ends too early"
  | fuel + 1, held, k, ts =>
    match ts with
    | .blockEntry :: rest => do
      let (n, k, ts) ← optionalNode fuel .block k rest
      blockItems fuel (n :: held) k ts
    | .blockEnd :: rest => .ok (held.reverse, k, rest)
    | _ => .error "a sequence does not end"

/-- The items of a block sequence that is not indented. -/
def plainItems : Nat → List Node → Known → List Token → Except String (Reading (List Node))
  | 0, _, _, _ => .error "the text ends too early"
  | fuel + 1, held, k, ts =>
    match ts with
    | .blockEntry :: rest => do
      let (n, k, ts) ← optionalNode fuel .block k rest
      plainItems fuel (n :: held) k ts
    | _ => .ok (held.reverse, k, ts)

/-- The entries of a block mapping. -/
def blockEntries : Nat → List (Node × Node) → Known → List Token →
    Except String (Reading (List (Node × Node)))
  | 0, _, _, _ => .error "the text ends too early"
  | fuel + 1, held, k, ts =>
    match ts with
    | .key :: rest => do
      let (key, k, ts) ← optionalNode fuel .entry k rest
      let (value, k, ts) ← valueNode fuel .entry k ts
      blockEntries fuel ((key, value) :: held) k ts
    | .blockEnd :: rest => .ok (held.reverse, k, rest)
    | _ => .error "a mapping does not end"

/-- A value behind its sign; nothing where the sign is missing. -/
def valueNode : Nat → Context → Known → List Token → Except String (Reading Node)
  | 0, _, _, _ => .error "the text ends too early"
  | fuel + 1, context, k, ts =>
    match ts with
    | .value :: rest => optionalNode fuel context k rest
    | _ => .ok (absent, k, ts)

/-- The items between square brackets. A key between them is a mapping of its own. -/
def flowItems : Nat → Bool → List Node → Known → List Token → Except String (Reading (List Node))
  | 0, _, _, _, _ => .error "the text ends too early"
  | fuel + 1, first, held, k, ts =>
    match ts with
    | .flowSequenceEnd :: rest => .ok (held.reverse, k, rest)
    | ts => do
      let ts ←
        if first then pure ts
        else
          match ts with
          | .flowEntry :: rest => pure rest
          | _ => throw "an item is not ended"
      match ts with
      | .flowSequenceEnd :: rest => return (held.reverse, k, rest)
      | .key :: rest =>
        let (key, k, ts) ← optionalNode fuel .flow k rest
        let (value, k, ts) ← valueNode fuel .flow k ts
        flowItems fuel false (.mapping "" [(key, value)] :: held) k ts
      | ts =>
        let (n, k, ts) ← node fuel .flow k ts
        flowItems fuel false (n :: held) k ts

/-- The entries between braces. -/
def flowEntries : Nat → Bool → List (Node × Node) → Known → List Token →
    Except String (Reading (List (Node × Node)))
  | 0, _, _, _, _ => .error "the text ends too early"
  | fuel + 1, first, held, k, ts =>
    match ts with
    | .flowMappingEnd :: rest => .ok (held.reverse, k, rest)
    | ts => do
      let ts ←
        if first then pure ts
        else
          match ts with
          | .flowEntry :: rest => pure rest
          | _ => throw "an entry is not ended"
      match ts with
      | .flowMappingEnd :: rest => return (held.reverse, k, rest)
      | .key :: rest =>
        let (key, k, ts) ← optionalNode fuel .flow k rest
        let (value, k, ts) ← valueNode fuel .flow k ts
        flowEntries fuel false ((key, value) :: held) k ts
      | ts =>
        let (key, k, ts) ← node fuel .flow k ts
        flowEntries fuel false ((key, absent) :: held) k ts

end

/-- Drop the markers of ends of documents in front. -/
def dropDocumentEnds : List Token → List Token
  | .documentEnd :: rest => dropDocumentEnds rest
  | ts => ts

/-- Whether a token opens a document in words. -/
def opensDocument : List Token → Bool
  | .versionDirective :: _ | .tagDirective .. :: _ | .documentStart :: _ => true
  | _ => false

/-- Take in the directives in front of a document. There may be one version, and one directive
    for each handle. -/
def directives (versioned : Bool) (handles : List (String × String)) :
    List Token → Except String (List (String × String) × List Token)
  | .versionDirective :: rest =>
    if versioned then .error "a version is given twice" else directives true handles rest
  | .tagDirective handle start :: rest =>
    if handles.any (fun h => h.1 == handle) then .error "a handle is given twice"
    else directives versioned ((handle, start) :: handles) rest
  | ts => .ok (handles, ts)

/-- The node of a document. Behind its marker a document may be empty, which makes it an absent
    node. -/
def document (ts : List Token) : Except String (Node × List Token) := do
  let (handles, rest) ← directives false [] ts
  let k : Known := ⟨handles ++ standardHandles, []⟩
  let body (ts : List Token) : Except String (Node × List Token) := do
    let (n, _, rest) ← node (4 * ts.length + 4) .block k ts
    return (n, rest)
  match rest with
  | .documentStart :: rest =>
    if rest.isEmpty || rest.head? = some .documentEnd || opensDocument rest then
      return (absent, rest)
    else body rest
  | rest => if opensDocument ts then throw "a document does not start" else body rest

/-- The node of a text that holds one document; a text without tokens is an absent node. -/
def ofTokens? (ts : List Token) : Except String Node := do
  if ts.isEmpty then return absent
  let (n, rest) ← document ts
  if (dropDocumentEnds rest).isEmpty then return n
  else throw "the text goes on behind its document"

/-- Read a text that holds one document. -/
def parse (text : String) : Except String Node := do ofTokens? (← Token.scan text)

end Node

end Ferry.Yaml
