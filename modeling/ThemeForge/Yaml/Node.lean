import ThemeForge.Yaml.Lexer
import ThemeForge.Yaml.Tag

/-!
# Nodes of YAML documents

The tree that a token sequence stands for. Every node carries its tag; an alias stands for the node
with its anchor, which must come before it. An alias inside the node of its own anchor has no tree,
and is left out, as are limits on how deep nodes may be nested.

* `Node`: scalars, sequences and mappings;
* `Node.ofTokens?`: the single document of a token sequence, `none` for an empty stream.
-/

namespace ThemeForge.Yaml

/-- A node with its tag. -/
inductive Node
  | scalar (tag : Tag) (text : Text)
  | sequence (tag : Tag) (items : List Node)
  | mapping (tag : Tag) (entries : List (Node × Node))
deriving Repr

/-- The part of a stream that has not been read, with what is needed to read it: the fault that
ends the tokens, the anchors met so far (without a node while it is being read) and the tag
handles. -/
structure Stream where
  tokens : List Token
  fault : Option Fault
  anchors : List (Text × Option Node) := []
  handles : List (Text × Text) := []

namespace Stream

/-- The next token, if the stream has not ended. At a fault reading stops. -/
def head (s : Stream) : Reading (Option Token) :=
  match s.tokens with
  | t :: _ => .ok (some t)
  | [] =>
    match s.fault with
    | some f => .error f
    | none => .ok none

/-- The stream after its next token. -/
def rest (s : Stream) : Stream := { s with tokens := s.tokens.drop 1 }

/-- Whether the next token is `t`. -/
def sees (s : Stream) (t : Token) : Reading Bool := do return (← s.head) == some t

/-- Whether the next token is one of `ts`. -/
def seesAny (s : Stream) (ts : List Token) : Reading Bool := do
  match ← s.head with
  | some t => return ts.contains t
  | none => return false

end Stream

/-- The handles that need no directive. -/
def standardHandles : List (Text × Text) := [("!", "!"), ("!!", standardTag)]

/-- The empty scalar that stands for a missing node. -/
def emptyNode : Node := .scalar .null []

/-- An anchor, a tag, both in either order, or none, in front of a node. -/
def readProperties (s : Stream) :
    Reading (Option Text × Option (Option Text × Text) × Stream) := do
  match ← s.head with
  | some (.anchor a) =>
    match ← s.rest.head with
    | some (.tag h x) => return (some a, some (h, x), s.rest.rest)
    | _ => return (some a, none, s.rest)
  | some (.tag h x) =>
    match ← s.rest.head with
    | some (.anchor a) => return (some a, some (h, x), s.rest.rest)
    | _ => return (none, some (h, x), s.rest)
  | _ => return (none, none, s)

/-- The full name of a tag. -/
def tagName (s : Stream) : Option (Option Text × Text) → Reading (Option Text)
  | none => .ok none
  | some (none, suffix) => .ok (some suffix)
  | some (some handle, suffix) =>
    match s.handles.lookup handle with
    | some start => .ok (some (start ++ suffix))
    | none => malformed

/-- The tag of a collection, of which `usual` is the tag unless another is given. -/
def collectionTag (usual : Tag) : Option Text → Tag
  | none => usual
  | some name => if name = "!" then usual else Tag.ofName name

/-- The tag of a scalar. Plain scalars without a tag, and all with the non-specific tag, are
resolved by their look. -/
def scalarTag (plain : Bool) (text : Text) : Option Text → Tag
  | none => if plain then resolve text else .text
  | some name => if name = "!" then resolve text else Tag.ofName name

/-- Where a node stands, as far as it decides which collections may begin there. -/
inductive Place
  | flow
  | block
  | blockOrDashes
deriving DecidableEq, Repr

/-- Notes the beginning of an anchored node. -/
def openAnchor (s : Stream) : Option Text → Reading Stream
  | none => .ok s
  | some a =>
    if (s.anchors.lookup a).isSome then malformed
    else .ok { s with anchors := (a, none) :: s.anchors }

/-- Notes the node of an anchor. -/
def closeAnchor (n : Node) (s : Stream) : Option Text → Stream
  | none => s
  | some a => { s with anchors := (a, some n) :: s.anchors }

mutual

/-- The next node. -/
def readNode (place : Place) : Nat → Stream → Reading (Node × Stream)
  | 0, _ => malformed
  | fuel + 1, s => do
    match ← s.head with
    | some (.alias name) =>
      match s.anchors.lookup name with
      | some (some n) => return (n, s.rest)
      | _ => malformed
    | _ =>
      let (anchor, given, s) ← readProperties s
      let name ← tagName s given
      let (n, s) ← readContent place fuel anchor name s
      return (n, closeAnchor n s anchor)

/-- The content of a node whose properties have been read. -/
def readContent (place : Place) : Nat → Option Text → Option Text → Stream → Reading (Node × Stream)
  | 0, _, _, _ => malformed
  | fuel + 1, anchor, name, s => do
    let token ← s.head
    match token with
    | some .blockEntry =>
      if place = .blockOrDashes then
        let (items, s) ← readDashes fuel (← openAnchor s anchor)
        return (.sequence (collectionTag .sequence name) items, s)
      else readBare anchor name s
    | some (.scalar t plain) =>
      let s ← openAnchor s.rest anchor
      return (.scalar (scalarTag plain t name) t, s)
    | some .flowSequenceStart =>
      let (items, s) ← readFlowItems fuel true (← openAnchor s.rest anchor)
      return (.sequence (collectionTag .sequence name) items, s)
    | some .flowMappingStart =>
      let (entries, s) ← readFlowEntries fuel true (← openAnchor s.rest anchor)
      return (.mapping (collectionTag .mapping name) entries, s)
    | some .blockSequenceStart =>
      if place = .flow then readBare anchor name s
      else
        let (items, s) ← readBlockItems fuel (← openAnchor s.rest anchor)
        return (.sequence (collectionTag .sequence name) items, s)
    | some .blockMappingStart =>
      if place = .flow then readBare anchor name s
      else
        let (entries, s) ← readBlockEntries fuel (← openAnchor s.rest anchor)
        return (.mapping (collectionTag .mapping name) entries, s)
    | _ => readBare anchor name s

/-- A node without content, which needs properties. -/
def readBare (anchor name : Option Text) (s : Stream) : Reading (Node × Stream) := do
  if anchor.isNone && name.isNone then malformed
  else
    let s ← openAnchor s anchor
    return (.scalar (scalarTag true [] name) [], s)

/-- A node, unless one of `stops` comes next. -/
def readUnless (stops : List Token) (place : Place) :
    Nat → Stream → Reading (Node × Stream)
  | 0, _ => malformed
  | fuel + 1, s => do
    if ← s.seesAny stops then return (emptyNode, s) else readNode place fuel s

/-- The entries of a sequence with dashes in the same column as its parent's keys. -/
def readDashes : Nat → Stream → Reading (List Node × Stream)
  | 0, _ => malformed
  | fuel + 1, s => do
    if ← s.sees .blockEntry then
      let (n, s) ← readUnless [.blockEntry, .key, .value, .blockEnd] .block fuel s.rest
      let (items, s) ← readDashes fuel s
      return (n :: items, s)
    else return ([], s)

/-- The entries of a block sequence up to its end. -/
def readBlockItems : Nat → Stream → Reading (List Node × Stream)
  | 0, _ => malformed
  | fuel + 1, s => do
    if ← s.sees .blockEntry then
      let (n, s) ← readUnless [.blockEntry, .blockEnd] .block fuel s.rest
      let (items, s) ← readBlockItems fuel s
      return (n :: items, s)
    else if ← s.sees .blockEnd then return ([], s.rest)
    else malformed

/-- The entries of a block mapping up to its end. -/
def readBlockEntries : Nat → Stream → Reading (List (Node × Node) × Stream)
  | 0, _ => malformed
  | fuel + 1, s => do
    if ← s.sees .key then
      let (k, s) ← readUnless [.key, .value, .blockEnd] .blockOrDashes fuel s.rest
      let (v, s) ← readBlockValue fuel s
      let (entries, s) ← readBlockEntries fuel s
      return ((k, v) :: entries, s)
    else if ← s.sees .blockEnd then return ([], s.rest)
    else malformed

/-- The value of an entry of a block mapping. -/
def readBlockValue : Nat → Stream → Reading (Node × Stream)
  | 0, _ => malformed
  | fuel + 1, s => do
    if ← s.sees .value then readUnless [.key, .value, .blockEnd] .blockOrDashes fuel s.rest
    else return (emptyNode, s)

/-- The items of a flow sequence up to its end. -/
def readFlowItems : Nat → Bool → Stream → Reading (List Node × Stream)
  | 0, _, _ => malformed
  | fuel + 1, first, s => do
    if ← s.sees .flowSequenceEnd then return ([], s.rest)
    else
      let s ← if first then pure s
        else if ← s.sees .flowEntry then pure s.rest
        else malformed
      if ← s.sees .key then
        let (k, s) ← readUnless [.value, .flowEntry, .flowSequenceEnd] .flow fuel s.rest
        let (v, s) ← readFlowValue [.flowEntry, .flowSequenceEnd] fuel s
        let (items, s) ← readFlowItems fuel false s
        return (.mapping .mapping [(k, v)] :: items, s)
      else if ← s.sees .flowSequenceEnd then return ([], s.rest)
      else
        let (n, s) ← readNode .flow fuel s
        let (items, s) ← readFlowItems fuel false s
        return (n :: items, s)

/-- The entries of a flow mapping up to its end. -/
def readFlowEntries : Nat → Bool → Stream → Reading (List (Node × Node) × Stream)
  | 0, _, _ => malformed
  | fuel + 1, first, s => do
    if ← s.sees .flowMappingEnd then return ([], s.rest)
    else
      let s ← if first then pure s
        else if ← s.sees .flowEntry then pure s.rest
        else malformed
      if ← s.sees .key then
        let (k, s) ← readUnless [.value, .flowEntry, .flowMappingEnd] .flow fuel s.rest
        let (v, s) ← readFlowValue [.flowEntry, .flowMappingEnd] fuel s
        let (entries, s) ← readFlowEntries fuel false s
        return ((k, v) :: entries, s)
      else if ← s.sees .flowMappingEnd then return ([], s.rest)
      else
        let (k, s) ← readNode .flow fuel s
        let (entries, s) ← readFlowEntries fuel false s
        return ((k, emptyNode) :: entries, s)

/-- The value of an entry in flow context, if there is one. -/
def readFlowValue (stops : List Token) : Nat → Stream → Reading (Node × Stream)
  | 0, _ => malformed
  | fuel + 1, s => do
    if ← s.sees .value then readUnless stops .flow fuel s.rest
    else return (emptyNode, s)

end

/-! ## Documents -/

/-- Reads directives: the version may be given once and must be 1, a handle may be declared once. -/
def readDirectives : List Token → (version : Bool) → List (Text × Text) →
    Reading (List Token × List (Text × Text))
  | .versionDirective major :: rest, version, handles =>
    if version ∨ major ≠ 1 then malformed else readDirectives rest true handles
  | .tagDirective handle start :: rest, version, handles =>
    if (handles.lookup handle).isSome then malformed
    else readDirectives rest version ((handle, start) :: handles)
  | .otherDirective :: rest, version, handles => readDirectives rest version handles
  | ts, _, handles => .ok (ts, handles ++ standardHandles)

/-- Passes markers of document ends. -/
def Stream.skipEnds (s : Stream) : Stream :=
  { s with tokens := s.tokens.dropWhile (· == .documentEnd) }

/-- Nothing but markers of document ends may follow. -/
def Stream.expectEnd (s : Stream) : Reading Unit := do
  match ← s.skipEnds.head with
  | none => return ()
  | some _ => malformed

/-- A document after its directives, and the stream behind it. -/
def readExplicit (s : Stream) : Reading (Node × Stream) := do
  let s := s.skipEnds
  match ← s.head with
  | none => malformed
  | some _ =>
    let (ts, handles) ← readDirectives s.tokens false []
    let s := { s with tokens := ts, handles := handles }
    if ← s.sees .documentStart then
      let s := s.rest
      match ← s.head with
      | none => return (emptyNode, s)
      | some t =>
        if t.isDirective ∨ t = .documentStart ∨ t = .documentEnd then return (emptyNode, s)
        else readNode .block (4 * s.tokens.length + 4) s
    else malformed

/-- The document of a stream that holds one at most. -/
def Node.ofTokens? (ts : List Token) (fault : Option Fault) : Reading (Option Node) := do
  let s : Stream := { tokens := ts, fault := fault, handles := standardHandles }
  match ← s.head with
  | none => return none
  | some t =>
    if t.isDirective ∨ t = .documentStart then
      let (n, s) ← readExplicit s
      s.expectEnd
      return some n
    else
      let (n, s) ← readNode .block (4 * ts.length + 4) s
      s.expectEnd
      return some n

end ThemeForge.Yaml
