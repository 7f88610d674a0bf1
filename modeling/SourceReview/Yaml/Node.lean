import SourceReview.Yaml.Token

/-!
# YAML nodes

The value that a text stands for: scalars, sequences and mappings. An alias stands for a copy of the
node that it names, and a node that is left out is an empty scalar.
-/

namespace SourceReview.Yaml

inductive Node where
  | scalar (isPlain : Bool) (text : List Char)
  | sequence (items : List Node)
  | mapping (entries : List (Node × Node))
  deriving Repr

namespace Node

/-- The node that stands where none is written. -/
def blank : Node := .scalar true []

/-- The nodes that have names, the latest first. -/
abbrev Anchors := List (String × Node)

/-- A node with the names that are known after it, and the tokens that follow it. -/
structure Found (α : Type) where
  value : α
  anchors : Anchors
  rest : List Token

/-- Whether the next token is among `ts`. The end of the tokens is not. -/
def nextIs (ts : List Token) (rest : List Token) : Bool := rest.head?.any ts.contains

/-- The name in the properties that stand before a node, and whether it has any. Each of the two
properties may stand there once, in either order. -/
def propertiesAt : List Token → Option String × Bool × List Token
  | .anchor a :: .tag :: ts => (some a, true, ts)
  | .tag :: .anchor a :: ts => (some a, true, ts)
  | .anchor a :: ts => (some a, true, ts)
  | .tag :: ts => (none, true, ts)
  | ts => (none, false, ts)

mutual

/-- Reads a node. `inBlock` tells whether a block collection may stand there, and `indentless`
whether a sequence may stand there without being indented. -/
def nodeAt : Nat → Bool → Bool → Anchors → List Token → Option (Found Node)
  | 0, _, _, _, _ => none
  | _ + 1, _, _, anchors, .alias a :: ts => (anchors.lookup a).map fun n => ⟨n, anchors, ts⟩
  | fuel + 1, inBlock, indentless, anchors, ts => do
    let (name, hasProperties, ts) := propertiesAt ts
    let n ← contentAt fuel inBlock indentless hasProperties anchors ts
    return { n with anchors := (name.map fun a => (a, n.value)).toList ++ n.anchors }

/-- Reads a node after its properties. -/
def contentAt : Nat → Bool → Bool → Bool → Anchors → List Token → Option (Found Node)
  | 0, _, _, _, _, _ => none
  | fuel + 1, inBlock, indentless, hasProperties, anchors, ts =>
    match ts, inBlock, indentless with
    | .blockEntry :: _, _, true =>
      (indentlessItemsAt fuel anchors ts).map fun f => { f with value := .sequence f.value }
    | .scalar isPlain text :: ts, _, _ => some ⟨.scalar isPlain text, anchors, ts⟩
    | .flowSequenceStart :: ts, _, _ =>
      (flowItemsAt fuel true anchors ts).map fun f => { f with value := .sequence f.value }
    | .flowMappingStart :: ts, _, _ =>
      (flowEntriesAt fuel true anchors ts).map fun f => { f with value := .mapping f.value }
    | .blockSequenceStart :: ts, true, _ =>
      (blockItemsAt fuel anchors ts).map fun f => { f with value := .sequence f.value }
    | .blockMappingStart :: ts, true, _ =>
      (blockEntriesAt fuel anchors ts).map fun f => { f with value := .mapping f.value }
    | ts, _, _ => if hasProperties then some ⟨blank, anchors, ts⟩ else none

/-- Reads a node, which is left out if one of the tokens `ends` comes next. -/
def nodeUnless : Nat → Bool → Bool → List Token → Anchors → List Token → Option (Found Node)
  | 0, _, _, _, _, _ => none
  | fuel + 1, inBlock, indentless, ends, anchors, ts =>
    if nextIs ends ts then some ⟨blank, anchors, ts⟩
    else nodeAt fuel inBlock indentless anchors ts

/-- Reads the items of an indented sequence. -/
def blockItemsAt : Nat → Anchors → List Token → Option (Found (List Node))
  | fuel + 1, anchors, .blockEntry :: ts => do
    let item ← nodeUnless fuel true false [.blockEntry, .blockEnd] anchors ts
    let more ← blockItemsAt fuel item.anchors item.rest
    return { more with value := item.value :: more.value }
  | _ + 1, anchors, .blockEnd :: ts => some ⟨[], anchors, ts⟩
  | _, _, _ => none

/-- Reads the items of a sequence that is not indented. -/
def indentlessItemsAt : Nat → Anchors → List Token → Option (Found (List Node))
  | 0, _, _ => none
  | fuel + 1, anchors, .blockEntry :: ts => do
    let item ← nodeUnless fuel true false [.blockEntry, .key, .value, .blockEnd] anchors ts
    let more ← indentlessItemsAt fuel item.anchors item.rest
    return { more with value := item.value :: more.value }
  | _ + 1, anchors, ts => some ⟨[], anchors, ts⟩

/-- Reads the entries of a block mapping. -/
def blockEntriesAt : Nat → Anchors → List Token → Option (Found (List (Node × Node)))
  | fuel + 1, anchors, .key :: ts => do
    let key ← nodeUnless fuel true true [.key, .value, .blockEnd] anchors ts
    let value ← blockValueAt fuel key.anchors key.rest
    let more ← blockEntriesAt fuel value.anchors value.rest
    return { more with value := (key.value, value.value) :: more.value }
  | _ + 1, anchors, .blockEnd :: ts => some ⟨[], anchors, ts⟩
  | _, _, _ => none

/-- Reads the value of an entry of a block mapping. -/
def blockValueAt : Nat → Anchors → List Token → Option (Found Node)
  | 0, _, _ => none
  | fuel + 1, anchors, .value :: ts =>
    nodeUnless fuel true true [.key, .value, .blockEnd] anchors ts
  | _ + 1, anchors, ts => some ⟨blank, anchors, ts⟩

/-- Reads the items of a flow sequence. An item may be a single entry of a mapping. -/
def flowItemsAt : Nat → Bool → Anchors → List Token → Option (Found (List Node))
  | 0, _, _, _ => none
  | _ + 1, _, anchors, .flowSequenceEnd :: ts => some ⟨[], anchors, ts⟩
  | fuel + 1, isFirst, anchors, ts => do
    let ts ← if isFirst then some ts else if nextIs [.flowEntry] ts then some ts.tail else none
    if nextIs [.flowSequenceEnd] ts then some ⟨[], anchors, ts.tail⟩
    else
      let item ← if nextIs [.key] ts then pairAt fuel anchors ts.tail
        else nodeAt fuel false false anchors ts
      let more ← flowItemsAt fuel false item.anchors item.rest
      return { more with value := item.value :: more.value }

/-- Reads a mapping of one entry in a flow sequence, after the token of its key. A token that stands
in place of the key is passed over. -/
def pairAt : Nat → Anchors → List Token → Option (Found Node)
  | 0, _, _ => none
  | fuel + 1, anchors, ts => do
    let key ← if nextIs [.value, .flowEntry, .flowSequenceEnd] ts
      then some ⟨blank, anchors, ts.tail⟩
      else nodeAt fuel false false anchors ts
    let value ← flowValueAt fuel [.flowEntry, .flowSequenceEnd] key.anchors key.rest
    return { value with value := .mapping [(key.value, value.value)] }

/-- Reads the value of an entry in a flow collection. -/
def flowValueAt : Nat → List Token → Anchors → List Token → Option (Found Node)
  | 0, _, _, _ => none
  | fuel + 1, ends, anchors, .value :: ts => nodeUnless fuel false false ends anchors ts
  | _ + 1, _, anchors, ts => some ⟨blank, anchors, ts⟩

/-- Reads the entries of a flow mapping. An entry may be a key alone. -/
def flowEntriesAt : Nat → Bool → Anchors → List Token → Option (Found (List (Node × Node)))
  | 0, _, _, _ => none
  | _ + 1, _, anchors, .flowMappingEnd :: ts => some ⟨[], anchors, ts⟩
  | fuel + 1, isFirst, anchors, ts => do
    let ts ← if isFirst then some ts else if nextIs [.flowEntry] ts then some ts.tail else none
    if nextIs [.flowMappingEnd] ts then some ⟨[], anchors, ts.tail⟩
    else if nextIs [.key] ts then
      let key ← nodeUnless fuel false false [.value, .flowEntry, .flowMappingEnd] anchors ts.tail
      let value ← flowValueAt fuel [.flowEntry, .flowMappingEnd] key.anchors key.rest
      let more ← flowEntriesAt fuel false value.anchors value.rest
      return { more with value := (key.value, value.value) :: more.value }
    else
      let key ← nodeAt fuel false false anchors ts
      let more ← flowEntriesAt fuel false key.anchors key.rest
      return { more with value := (key.value, blank) :: more.value }

end

/-- Whether a token is a directive. -/
def isDirective : Token → Bool
  | .directive _ => true
  | _ => false

/-- The tokens of the first document, without the directives and the mark before it. A version is
given at most once, and directives need the mark after them. -/
def documentAt (ts : List Token) : Option (List Token) :=
  let directives := ts.takeWhile isDirective
  match directives, ts.dropWhile isDirective with
  | [], .documentStart :: ts => some ts
  | [], ts => some ts
  | directives, .documentStart :: ts =>
    if directives.count (.directive true) ≤ 1 then some ts else none
  | _, _ => none

/-- The node of a text that holds one document. -/
def parse? (text : List Char) : Option Node := do
  let ts ← Token.scan text
  if ts.isEmpty then return blank
  let body ← documentAt ts
  let isExplicit := body.length < ts.length
  let isEmpty := body.isEmpty || nextIs [.documentStart, .documentEnd] body ||
    body.head?.any isDirective
  let root ← if isExplicit && isEmpty then some ⟨blank, [], body⟩
    else nodeAt (6 * body.length + 6) true false [] body
  if root.rest.all (· == .documentEnd) then return root.value else none

end Node

end SourceReview.Yaml
