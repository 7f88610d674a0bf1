import SourceReview.Yaml.Scalar

/-!
# YAML tokens

The tokens of a text. Indentation gives the tokens that open and close block collections. A scalar
or a collection turns out to be a key only when the colon after it is met, so for each level of
nesting one place is kept at which a key may begin.
-/

namespace SourceReview.Yaml

inductive Token where
  /-- A line with the version or with a tag of the document that follows. -/
  | directive (isVersion : Bool)
  | documentStart
  | documentEnd
  | blockSequenceStart
  | blockMappingStart
  | blockEnd
  | flowSequenceStart
  | flowSequenceEnd
  | flowMappingStart
  | flowMappingEnd
  | blockEntry
  | flowEntry
  | key
  | value
  | alias (name : String)
  | anchor (name : String)
  | tag
  | scalar (isPlain : Bool) (text : List Char)
  deriving DecidableEq, Repr

/-- A place at which a key may begin. -/
structure KeyPlace where
  /-- The number of tokens before it. -/
  position : Nat
  place : Place
  /-- Whether only a key can stand there. -/
  required : Bool
  deriving Repr

/-- How far a text has been read. -/
structure Scan where
  cursor : Cursor
  /-- The tokens so far, the latest first. -/
  tokens : List Token := []
  /-- The column of the innermost block collection. -/
  indent : Int := -1
  /-- The columns of the block collections around it, the innermost first. -/
  outerIndents : List Int := []
  /-- Whether a key may begin at the next token. -/
  keyAllowed : Bool := true
  /-- Where a key may begin outside of flow collections. -/
  blockKey : Option KeyPlace := none
  /-- Where a key may begin in each flow collection, the innermost first. -/
  flowKeys : List (Option KeyPlace) := []

namespace Scan

/-- Whether the text is inside a flow collection. -/
def inFlow (s : Scan) : Bool := !s.flowKeys.isEmpty

/-- The column that has been reached. -/
def column (s : Scan) : Int := s.cursor.place.column

/-- Where a key may begin in the innermost collection. -/
def currentKey (s : Scan) : Option KeyPlace := s.flowKeys.headD s.blockKey

/-- Replaces the place at which a key may begin in the innermost collection. -/
def withCurrentKey (s : Scan) (k : Option KeyPlace) : Scan :=
  match s.flowKeys with
  | [] => { s with blockKey := k }
  | _ :: ks => { s with flowKeys := k :: ks }

/-- Adds a token. -/
def push (s : Scan) (t : Token) : Scan := { s with tokens := t :: s.tokens }

/-- Adds a token after the first `position` tokens. -/
def insert (s : Scan) (position : Nat) (t : Token) : Scan :=
  let later := s.tokens.length - position
  { s with tokens := s.tokens.take later ++ t :: s.tokens.drop later }

/-- Moves past the next `n` characters. -/
def skip (s : Scan) (n : Nat) : Scan :=
  { s with cursor := ⟨s.cursor.place.after (s.cursor.rest.take n), s.cursor.rest.drop n⟩ }

/-! ### Keys -/

/-- Forgets the place at which a key may begin, unless a key has to stand there. -/
def dropKey (s : Scan) : Option Scan :=
  match s.currentKey with
  | some k => if k.required then none else some (s.withCurrentKey none)
  | none => some s

/-- Notes that a key may begin here. It must, where the column is that of the block collection. -/
def saveKey (s : Scan) : Option Scan :=
  if s.keyAllowed then do
    let s ← s.dropKey
    return s.withCurrentKey (some
      { position := s.tokens.length
        place := s.cursor.place
        required := !s.inFlow && s.indent == s.column })
  else some s

/-- What remains at `place` of a key that may have begun earlier: a key stays on its line and has at
most 1024 characters. -/
def freshKey (place : Place) (key : Option KeyPlace) : Option (Option KeyPlace) :=
  match key with
  | some k =>
    if k.place.line < place.line || k.place.index + 1024 < place.index then
      if k.required then none else some none
    else some key
  | none => some none

/-- Forgets the places of keys that can no longer be keys. -/
def dropStaleKeys (s : Scan) : Option Scan := do
  let blockKey ← freshKey s.cursor.place s.blockKey
  let flowKeys ← s.flowKeys.mapM (freshKey s.cursor.place)
  return { s with blockKey, flowKeys }

/-! ### Indentation -/

/-- Opens a block collection at a column, if it is further in than the innermost one. -/
def openBlock (s : Scan) (column : Int) (position : Nat) (t : Token) : Scan :=
  if !s.inFlow && s.indent < column then
    { s.insert position t with indent := column, outerIndents := s.indent :: s.outerIndents }
  else s

/-- The tokens, the column and the outer columns after closing all block collections that are
further in than `column`. -/
def closedBlocks (column : Int) (tokens : List Token) (indent : Int) :
    List Int → List Token × Int × List Int
  | [] => (tokens, indent, [])
  | outer :: more =>
    if column < indent then closedBlocks column (.blockEnd :: tokens) outer more
    else (tokens, indent, outer :: more)

/-- Closes all block collections that are further in than `column`. -/
def closeBlocks (s : Scan) (column : Int) : Scan :=
  if s.inFlow then s
  else
    let (tokens, indent, outerIndents) := closedBlocks column s.tokens s.indent s.outerIndents
    { s with tokens, indent, outerIndents }

/-! ### Gaps -/

/-- Moves past spaces, line breaks and comments. A tab counts as a space only where no key may
begin, and a line break outside of flow collections lets a key begin. -/
def gapFrom (inFlow : Bool) (inComment keyAllowed : Bool) (place : Place) :
    List Char → Cursor × Bool
  | [] => (⟨place, []⟩, keyAllowed)
  | c :: cs =>
    if isBreak c then gapFrom inFlow false (keyAllowed || !inFlow) (place.next c) cs
    else if inComment then gapFrom inFlow true keyAllowed (place.next c) cs
    else if c == ' ' || (c == '\t' && (inFlow || !keyAllowed)) then
      gapFrom inFlow false keyAllowed (place.next c) cs
    else if c == '#' then gapFrom inFlow true keyAllowed (place.next c) cs
    else (⟨place, c :: cs⟩, keyAllowed)

/-- Moves to the next token. -/
def skipGap (s : Scan) : Scan :=
  let (cursor, keyAllowed) :=
    gapFrom s.inFlow false s.keyAllowed s.cursor.place s.cursor.rest
  { s with cursor, keyAllowed }

/-! ### Tokens -/

/-- Leaves all block collections before a mark between documents or a directive. -/
def leaveDocument (s : Scan) : Option Scan := do
  let s ← (s.closeBlocks (-1)).dropKey
  return { s with keyAllowed := false }

/-- Whether the rest of a line holds at most a comment. -/
def isLineEnd (cs : List Char) : Bool :=
  match cs.dropWhile isSpace with
  | [] => true
  | c :: _ => isBreak c || c == '#'

/-- Whether a character may stand in a name. -/
def isNameCharacter (c : Char) : Bool := c.isAlphanum || c == '_' || c == '-'

/-- The version or tag in a directive, after the percent sign. -/
def directive? (line : List Char) : Option Token :=
  let name := line.takeWhile isNameCharacter
  let body := line.dropWhile isNameCharacter
  if !body.head?.any isSpace then none
  else
    let body := body.dropWhile isSpace
    if name == "YAML".toList then
      let major := body.takeWhile Char.isDigit
      match body.dropWhile Char.isDigit with
      | '.' :: more =>
        let minor := more.takeWhile Char.isDigit
        let known := Decimal.natOfDigits major == 1 &&
          (Decimal.natOfDigits minor == 1 || Decimal.natOfDigits minor == 2)
        if known && major.length ≤ 9 && minor.length ≤ 9 && isLineEnd (more.dropWhile Char.isDigit)
        then some (.directive true)
        else none
      | _ => none
    else if name == "TAG".toList then
      let handle := body.takeWhile (!isSpace ·)
      let tagText := (body.dropWhile (!isSpace ·)).dropWhile isSpace
      if handle.head? == some '!' && !tagText.isEmpty && isLineEnd (tagText.dropWhile (!isSpace ·))
      then some (.directive false)
      else none
    else none

/-- Reads a directive. -/
def readDirective (s : Scan) : Option Scan := do
  let s ← s.leaveDocument
  let line := s.cursor.rest.takeWhile (!isBreak ·)
  let t ← directive? (line.drop 1)
  return (s.skip line.length).push t

/-- Reads the name of an anchor or alias after its sign. -/
def readName (s : Scan) (token : String → Token) : Option Scan := do
  let s ← s.saveKey
  let s := { s.skip 1 with keyAllowed := false }
  let name := s.cursor.rest.takeWhile isNameCharacter
  let s := s.skip name.length
  if name.isEmpty || !(isGap s.cursor.rest || s.cursor.rest.head?.any (isOneOf "?:,]\x7d%@\x60"))
  then none
  else return s.push (token (String.ofList name))

/-- Reads a tag. -/
def readTag (s : Scan) : Option Scan := do
  let s ← s.saveKey
  let text := s.cursor.rest.takeWhile fun c =>
    !(isSpace c || isBreak c || isOneOf ",[]\x7b\x7d" c)
  let s := { s.skip text.length with keyAllowed := false }
  if isGap s.cursor.rest || (s.inFlow && s.cursor.rest.head? == some ',') then return s.push .tag
  else none

/-- Reads a block scalar. -/
def readBlockScalar (s : Scan) (folded : Bool) : Option Scan := do
  let s ← s.dropKey
  let (header, rest) := headerAt (s.cursor.rest.drop 1)
  let s := s.skip (s.cursor.rest.length - rest.length)
  if !isLineEnd rest then none
  else
    let line := rest.takeWhile (!isBreak ·)
    let s := s.skip (line.length + 1)
    let outer := if s.indent < 0 then 0 else s.indent.toNat
    let indent := if header.increment == 0 then 0 else outer + header.increment
    let run ← blockFrom folded header.chomping (max 1 (s.indent + 1).toNat) false { indent }
      s.cursor.place s.cursor.rest
    return { s.push (.scalar false run.text) with cursor := run.cursor, keyAllowed := true }

/-- Adds a scalar that may be a key. -/
def pushScalar (s : Scan) (isPlain : Bool) (run : Option ScalarRun) : Option Scan := do
  let s ← s.saveKey
  let run ← run
  return { s.push (.scalar isPlain run.text) with
    cursor := run.cursor, keyAllowed := run.multiline }

/-- Opens a flow collection, which may be a key. -/
def openFlow (s : Scan) (t : Token) : Option Scan := do
  let s ← s.saveKey
  return { (s.skip 1).push t with flowKeys := none :: s.flowKeys, keyAllowed := true }

/-- Closes a flow collection. -/
def closeFlow (s : Scan) (t : Token) : Option Scan := do
  let s ← s.dropKey
  return { (s.skip 1).push t with flowKeys := s.flowKeys.tail, keyAllowed := false }

/-- Reads an indicator that opens a block collection where none is open. -/
def readBlockIndicator (s : Scan) (opening t : Token) (keyAllowed : Bool) : Option Scan :=
  if !s.inFlow && !s.keyAllowed then none
  else do
    let s ← (s.openBlock s.column s.tokens.length opening).dropKey
    return { (s.skip 1).push t with keyAllowed }

/-- Reads the colon before a value. What stands since the place of a key turns out to be the key. -/
def readValue (s : Scan) : Option Scan :=
  match s.currentKey with
  | some k =>
    let s := (s.insert k.position .key).openBlock k.place.column k.position .blockMappingStart
    some { ((s.withCurrentKey none).skip 1).push .value with keyAllowed := false }
  | none =>
    if s.inFlow then some { (s.skip 1).push .value with keyAllowed := false }
    else if !s.keyAllowed then none
    else
      let s := s.openBlock s.column s.tokens.length .blockMappingStart
      some { (s.skip 1).push .value with keyAllowed := true }

/-- Whether a plain scalar may begin with `c` before `cs`. -/
def beginsPlain (inFlow : Bool) (c : Char) (cs : List Char) : Bool :=
  !(isSpace c || isOneOf "-?:,[]\x7b\x7d#&*!|>\x27\"%@\x60" c) ||
    (c == '-' && !cs.head?.any isSpace) ||
    (!inFlow && (c == '?' || c == ':') && !isGap cs)

/-- Reads the token that begins with `c` before `cs`. -/
def readToken (s : Scan) (c : Char) (cs : List Char) : Option Scan :=
  let place := s.cursor.place
  if place.column == 0 && c == '%' then s.readDirective
  else if place.column == 0 && isDocumentMark (c :: cs) then do
    let s ← s.leaveDocument
    return (s.skip 3).push (if c == '-' then .documentStart else .documentEnd)
  else if c == '[' then s.openFlow .flowSequenceStart
  else if c == '\x7b' then s.openFlow .flowMappingStart
  else if c == ']' then s.closeFlow .flowSequenceEnd
  else if c == '\x7d' then s.closeFlow .flowMappingEnd
  else if c == ',' then do
    let s ← s.dropKey
    return { (s.skip 1).push .flowEntry with keyAllowed := true }
  else if c == '-' && isGap cs then s.readBlockIndicator .blockSequenceStart .blockEntry true
  else if c == '?' && (s.inFlow || isGap cs) then
    s.readBlockIndicator .blockMappingStart .key (!s.inFlow)
  else if c == ':' && (s.inFlow || isGap cs) then s.readValue
  else if c == '*' then s.readName .alias
  else if c == '&' then s.readName .anchor
  else if c == '!' then s.readTag
  else if c == '|' && !s.inFlow then s.readBlockScalar false
  else if c == '>' && !s.inFlow then s.readBlockScalar true
  else if c == '\x27' then s.pushScalar false (singleQuotedFrom [] {} (place.next c) cs)
  else if c == '"' then s.pushScalar false (doubleQuotedFrom .text [] {} (place.next c) cs)
  else if beginsPlain s.inFlow c cs then
    s.pushScalar true (plainFrom s.inFlow (s.indent + 1) [] {} place (c :: cs))
  else none

/-- Reads on to the end of the text, in at most `fuel` tokens. -/
def finish : Nat → Scan → Option (List Token)
  | 0, _ => none
  | fuel + 1, s => do
    let s ← s.skipGap.dropStaleKeys
    let s := s.closeBlocks s.column
    match s.cursor.rest with
    | [] =>
      let s ← s.leaveDocument
      return s.tokens.reverse
    | c :: cs =>
      let s ← s.readToken c cs
      s.finish fuel

end Scan

/-- The tokens of a text, or nothing if it has a fault. Each token takes at least one character. -/
def Token.scan (text : List Char) : Option (List Token) := do
  let text ← prepare? text
  Scan.finish (text.length + 1) { cursor := { rest := text } }

end SourceReview.Yaml
