import ContainerKernel.Document.Node
import ContainerKernel.Document.Token.Scan

/-!
# From tokens to nodes

The tokens of the first document are read by one function for each kind of collection. Comments
wait until a node or the end of a collection takes them; which ends do so decides to which node a
comment goes. Tokens are cut as they are asked for, so that a flaw behind the first document is
never met. Every function takes a bound on the depth and the number of members, which the length
of the document gives.
-/

namespace ContainerKernel.Document

/-- Where the tokens come from, and what has been learned on the way. -/
structure TokenReader where
  scan : Scan
  /-- The comments that no node has taken yet. -/
  waiting : Remarks := {}
  /-- A head comment kept for the collection that a member of a sequence begins with. -/
  stem : List Char := []
  /-- The handles of tags, and what they abbreviate. -/
  handles : List (List Char × Bytes) := []
  /-- The names of anchors with the numbers of their nodes, the last one first. -/
  anchors : List (List Char × Nat) := []
  /-- The number of anchors. -/
  anchorCount : Nat := 0
  /-- The finished nodes that have anchors. -/
  anchored : List (Nat × Node) := []

/-- A reading of tokens, which may find a flaw. -/
abbrev Compose := StateT TokenReader (Except Flaw)

namespace Compose

/-- One comment after another. -/
def joinLines (first second : List Char) : List Char :=
  if first.isEmpty then second else first ++ '\n' :: second

/-- Add a comment to those that wait. -/
def addRemark (waiting : Remarks) (comment : Comment) : Remarks :=
  match comment.side with
  | .head => { waiting with head := joinLines waiting.head comment.text }
  | .line => { waiting with behind := joinLines waiting.behind comment.text }
  | .foot => { waiting with foot := joinLines waiting.foot comment.text }

/--
Let the comments up to a token wait. The end of a collection that is shown by indentation leaves
head comments to what follows.
-/
def gather (token : Token) : List Comment → Remarks → List Comment × Remarks
  | [], waiting => ([], waiting)
  | comment :: comments, waiting =>
    if comment.target ≤ token.start.index &&
        !(comment.side = .head && token.kind = .blockEnd) then
      gather token comments (addRemark waiting comment)
    else (comment :: comments, waiting)

/-- Look at the next token; the comments up to it wait from now on. -/
def peek : Compose Token := do
  let reader ← get
  let scan ← reader.scan.ready
  match scan.queue with
  | [] => throw .arrangement
  | token :: _ =>
    let (comments, waiting) := gather token scan.comments reader.waiting
    set { reader with scan := { scan with comments }, waiting }
    return token

/-- Pass over the next token. -/
def advance : Compose Unit :=
  modify fun reader => { reader with scan := reader.scan.take }

/-- Pass over the next token and look at the one after it. -/
def advanceAndPeek : Compose Token := do
  advance
  peek

/-- Take the comments that wait. -/
def takeRemarks : Compose Remarks := do
  let reader ← get
  set { reader with waiting := {}, stem := [] }
  return reader.waiting

/-- Take the comment that is kept for a collection. -/
def takeStem : Compose (List Char) := do
  let reader ← get
  set { reader with stem := [] }
  return reader.stem

/--
Behind the dash of a member: when the member begins with a collection, the comments before the
dash are kept for it, and those behind the dash wait for its first member.
-/
def splitStem (headBefore : List Char) : Compose Unit := do
  if headBefore.isEmpty then return
  let token ← peek
  if token.kind = .blockSequenceStart || token.kind = .blockMappingStart then
    modify fun reader =>
      { reader with
        stem := headBefore
        waiting := { reader.waiting with
          head := reader.waiting.head.drop (headBefore.length + 1) } }

/-- An empty scalar on a line. -/
def emptyScalar (line : Nat) : Node :=
  .scalar { line := line + 1, tag := .null } .plain []

/-- What stands before the content of a node. -/
structure Properties where
  start : Mark
  anchor : Option (List Char) := none
  tag : Option Bytes := none

/-- The text of a tag whose handle is known. -/
def tagText (handle : List Char) (suffix : Bytes) : Compose Bytes := do
  if handle.isEmpty then return suffix
  match (← get).handles.lookup handle with
  | some start => return start ++ suffix
  | none => throw .arrangement

/-- Read an anchor and a tag, in either order. -/
def properties : Compose (Properties × Token) := do
  let token ← peek
  let start := token.start
  match token.kind with
  | .anchor name =>
    let next ← advanceAndPeek
    match next.kind with
    | .tag handle suffix =>
      let content ← advanceAndPeek
      let tag ← tagText handle suffix
      return ({ start, anchor := some name, tag := some tag }, content)
    | _ => return ({ start, anchor := some name }, next)
  | .tag handle suffix =>
    let next ← advanceAndPeek
    match next.kind with
    | .anchor name =>
      let content ← advanceAndPeek
      let tag ← tagText handle suffix
      return ({ start, anchor := some name, tag := some tag }, content)
    | _ =>
      let tag ← tagText handle suffix
      return ({ start, tag := some tag }, next)
  | _ => return ({ start }, token)

/-- The tag of a node: the one that is written, or else the given one. -/
def infoOf (properties : Properties) (usual : Tag) (remarks : Remarks) : NodeInfo :=
  let written := properties.tag.filter fun text => text ≠ [] && text ≠ Tag.lone
  { line := properties.start.line + 1
    tag := (written.map Tag.ofText).getD usual
    tagged := written.isSome
    anchor := properties.anchor
    remarks }

/-- The tag of a scalar that has none written. -/
def usualScalarTag (style : ScalarStyle) (value : List Char) : Tag :=
  if style = .plain then
    if value = ['<', '<'] then .merge else (Meaning.ofText true value).tag
  else .str

/-- Give an anchor's node the next number, before its members are read. -/
def openAnchor (anchor : Option (List Char)) : Compose Nat := do
  let reader ← get
  let number := reader.anchorCount
  match anchor with
  | none => return number
  | some name =>
    set { reader with
      anchors := (name, number) :: reader.anchors, anchorCount := number + 1 }
    return number

/-- Keep an anchor's node under its number. -/
def closeAnchor (anchor : Option (List Char)) (number : Nat) (node : Node) : Compose Node := do
  if anchor.isSome then
    modify fun reader => { reader with anchored := (number, node) :: reader.anchored }
  return node

/-- Read a scalar. -/
def scalar (properties : Properties) (style : ScalarStyle) (value : List Char)
    (remarks : Remarks) : Compose Node := do
  let number ← openAnchor properties.anchor
  let info := infoOf properties (usualScalarTag style value) remarks
  closeAnchor properties.anchor number (.scalar info style value)

/-- Read an alias. -/
def reference (name : List Char) (start : Mark) : Compose Node := do
  let remarks ← takeRemarks
  advance
  match (← get).anchors.lookup name with
  | some target =>
    return .reference { line := start.line + 1, tag := .other [], remarks } name start.index target
  | none => throw .reference

/--
Add an entry to a mapping. The foot of a key belongs to the entry before, when there is one; the
foot of a value belongs to its key. The entries stand with the last one first.
-/
def addEntry (bracketed : Bool) (entries : List (Node × Node)) (key value : Node) :
    List (Node × Node) :=
  let (entries, key) :=
    match entries with
    | (before, beforeValue) :: earlier =>
      if !bracketed && !key.foot.isEmpty then
        ((before.withFoot key.foot, beforeValue) :: earlier, key.withFoot [])
      else (entries, key)
    | [] => (entries, key)
  if key.foot.isEmpty && !value.foot.isEmpty then
    (key.withFoot value.foot, value.withFoot []) :: entries
  else (key, value) :: entries

/-- The remarks of a collection: its head is read before it, the others behind it. -/
def collectionRemarks (head : List Char) (atEnd : Remarks) : Remarks :=
  { atEnd with head }

/-- A finished mapping; shown by indentation, it leaves its foot to its last key. -/
def finishMapping (info : NodeInfo) (bracketed : Bool) (entries : List (Node × Node))
    (atEnd : Remarks) : Node :=
  let info := { info with remarks := collectionRemarks info.remarks.head atEnd }
  match entries with
  | (key, value) :: earlier =>
    if !bracketed && !atEnd.foot.isEmpty then
      .mapping { info with remarks := { info.remarks with foot := [] } } bracketed
        ((key.withFoot atEnd.foot, value) :: earlier).reverse
    else .mapping info bracketed entries.reverse
  | [] => .mapping info bracketed []

/-- A finished sequence. -/
def finishSequence (info : NodeInfo) (bracketed : Bool) (items : List Node) (atEnd : Remarks) :
    Node :=
  .sequence { info with remarks := collectionRemarks info.remarks.head atEnd } bracketed
    items.reverse

mutual

/-- Read a node; where `block` holds it may be a collection shown by indentation. -/
def node (block indentless : Bool) : Nat → Compose Node
  | 0 => throw .arrangement
  | bound + 1 => do
    let first ← peek
    match first.kind with
    | .reference name => reference name first.start
    | _ =>
      let (properties, token) ← properties
      content block indentless properties token bound

/-- Read what follows the properties of a node. -/
def content (block indentless : Bool) (properties : Properties) (token : Token) :
    Nat → Compose Node
  | 0 => throw .arrangement
  | bound + 1 => do
    match token.kind with
    | .scalar value style =>
      let remarks ← takeRemarks
      advance
      scalar properties style value remarks
    | .flowSequenceStart =>
      let remarks ← takeRemarks
      let number ← openAnchor properties.anchor
      advance
      let node ← flowItems (infoOf properties .seq remarks) true [] bound
      closeAnchor properties.anchor number node
    | .flowMappingStart =>
      let remarks ← takeRemarks
      let number ← openAnchor properties.anchor
      advance
      let node ← flowEntries (infoOf properties .map remarks) true [] bound
      closeAnchor properties.anchor number node
    | kind =>
      if indentless && kind = .blockEntry then
        let number ← openAnchor properties.anchor
        let node ← indentlessItems (infoOf properties .seq {}) [] bound
        closeAnchor properties.anchor number node
      else if block && kind = .blockSequenceStart then
        let head ← takeStem
        let number ← openAnchor properties.anchor
        advance
        let node ← blockItems (infoOf properties .seq { head }) [] bound
        closeAnchor properties.anchor number node
      else if block && kind = .blockMappingStart then
        let head ← takeStem
        let number ← openAnchor properties.anchor
        advance
        let node ← blockEntries (infoOf properties .map { head }) [] bound
        closeAnchor properties.anchor number node
      else if properties.anchor.isSome || properties.tag.any (!·.isEmpty) then
        scalar properties .plain [] {}
      else throw .arrangement

/-- Read the members of a sequence shown by indentation. -/
def blockItems (info : NodeInfo) (items : List Node) : Nat → Compose Node
  | 0 => throw .arrangement
  | bound + 1 => do
    let token ← peek
    match token.kind with
    | .blockEntry =>
      let headBefore := (← get).waiting.head
      advance
      splitStem headBefore
      let next ← peek
      if next.kind = .blockEntry || next.kind = .blockEnd then
        blockItems info (emptyScalar token.start.line :: items) bound
      else
        let item ← node true false bound
        blockItems info (item :: items) bound
    | .blockEnd =>
      advance
      return finishSequence info false items {}
    | _ => throw .arrangement

/-- Read the members of a sequence that is indented no more than the keys around it. -/
def indentlessItems (info : NodeInfo) (items : List Node) : Nat → Compose Node
  | 0 => throw .arrangement
  | bound + 1 => do
    let token ← peek
    match token.kind with
    | .blockEntry =>
      let headBefore := (← get).waiting.head
      advance
      splitStem headBefore
      let next ← peek
      if next.kind = .blockEntry || next.kind = .key || next.kind = .value ||
          next.kind = .blockEnd then
        indentlessItems info (emptyScalar token.start.line :: items) bound
      else
        let item ← node true false bound
        indentlessItems info (item :: items) bound
    | _ => return finishSequence info false items {}

/-- Read a key or a value of a mapping shown by indentation, whose sign was on the given line. -/
def blockPart (signLine : Nat) : Nat → Compose Node
  | 0 => throw .arrangement
  | bound + 1 => do
    let next ← peek
    if next.kind = .key || next.kind = .value || next.kind = .blockEnd then
      return emptyScalar signLine
    else node true true bound

/-- Read the entries of a mapping shown by indentation. -/
def blockEntries (info : NodeInfo) (entries : List (Node × Node)) : Nat → Compose Node
  | 0 => throw .arrangement
  | bound + 1 => do
    let token ← peek
    match token.kind with
    | .key =>
      advance
      let key ← blockPart token.start.line bound
      let next ← peek
      if next.kind = .value then
        advance
        let value ← blockPart next.start.line bound
        blockEntries info (addEntry false entries key value) bound
      else
        blockEntries info (addEntry false entries key (emptyScalar next.start.line)) bound
    | .blockEnd =>
      let remarks ← takeRemarks
      advance
      return finishMapping info false entries remarks
    | _ => throw .arrangement

/-- Read the members of a sequence in brackets. -/
def flowItems (info : NodeInfo) (first : Bool) (items : List Node) : Nat → Compose Node
  | 0 => throw .arrangement
  | bound + 1 => do
    let token ← peek
    if token.kind = .flowSequenceEnd then
      let remarks ← takeRemarks
      advance
      return finishSequence info true items remarks
    else if !first && token.kind ≠ .flowEntry then throw .arrangement
    else
      let token ← if first then pure token else advanceAndPeek
      match token.kind with
      | .flowSequenceEnd =>
        let remarks ← takeRemarks
        advance
        return finishSequence info true items remarks
      | .key =>
        advance
        let item ← flowPair token.start.line bound
        flowItems info false (item :: items) bound
      | _ =>
        let item ← node false false bound
        flowItems info false (item :: items) bound

/-- Read a mapping of one entry that stands in a sequence without brackets of its own. -/
def flowPair (line : Nat) : Nat → Compose Node
  | 0 => throw .arrangement
  | bound + 1 => do
    let token ← peek
    let key ←
      if token.kind = .value || token.kind = .flowEntry || token.kind = .flowSequenceEnd then do
        advance
        pure (emptyScalar token.start.line)
      else node false false bound
    let next ← peek
    let value ←
      if next.kind = .value then do
        let after ← advanceAndPeek
        if after.kind = .flowEntry || after.kind = .flowSequenceEnd then
          pure (emptyScalar after.start.line)
        else node false false bound
      else pure (emptyScalar next.start.line)
    return finishMapping { line := line + 1, tag := .map } true (addEntry true [] key value) {}

/-- Read the entries of a mapping in brackets. -/
def flowEntries (info : NodeInfo) (first : Bool) (entries : List (Node × Node)) :
    Nat → Compose Node
  | 0 => throw .arrangement
  | bound + 1 => do
    let token ← peek
    if token.kind = .flowMappingEnd then
      let remarks ← takeRemarks
      advance
      return finishMapping info true entries remarks
    else if !first && token.kind ≠ .flowEntry then throw .arrangement
    else
      let token ← if first then pure token else advanceAndPeek
      match token.kind with
      | .flowMappingEnd =>
        let remarks ← takeRemarks
        advance
        return finishMapping info true entries remarks
      | .key =>
        let next ← advanceAndPeek
        let key ←
          if next.kind = .value || next.kind = .flowEntry || next.kind = .flowMappingEnd then
            pure (emptyScalar next.start.line)
          else node false false bound
        let sign ← peek
        let value ←
          if sign.kind = .value then do
            let after ← advanceAndPeek
            if after.kind = .flowEntry || after.kind = .flowMappingEnd then
              pure (emptyScalar after.start.line)
            else node false false bound
          else pure (emptyScalar sign.start.line)
        flowEntries info false (addEntry true entries key value) bound
      | _ =>
        let key ← node false false bound
        let next ← peek
        flowEntries info false (addEntry true entries key (emptyScalar next.start.line)) bound

end

/-- The handles that need no directive. -/
def standardHandles : List (List Char × Bytes) :=
  [(['!'], Tag.lone), (['!', '!'], Tag.standardStart)]

/-- Read the directives before a document. The first argument bounds their number. -/
def directives : Nat → Bool → List (List Char × Bytes) → Compose Unit
  | 0, _, _ => throw .arrangement
  | bound + 1, versioned, handles => do
    let token ← peek
    match token.kind with
    | .versionDirective major minor =>
      if versioned || major ≠ 1 || minor ≠ 1 then throw .arrangement
      advance
      directives bound true handles
    | .tagDirective handle start =>
      if (handles.lookup handle).isSome then throw .arrangement
      advance
      directives bound versioned (handles ++ [(handle, start)])
    | _ => modify fun reader => { reader with handles := handles ++ standardHandles }

/-- Read the root of a document that begins with a marker. -/
def markedRoot (bound : Nat) : Compose Node := do
  let token ← peek
  if token.kind ≠ .documentStart then throw .arrangement
  let next ← advanceAndPeek
  match next.kind with
  | .versionDirective .. | .tagDirective .. | .documentStart | .documentEnd | .streamEnd =>
    return emptyScalar next.start.line
  | _ => node true false bound

/-- Read the first document; nothing when there is none. -/
def document (bound : Nat) : Compose (Option Node) := do
  let first ← peek
  match first.kind with
  | .streamEnd => return none
  | .versionDirective .. | .tagDirective .. | .documentStart =>
    directives bound false []
    let root ← markedRoot bound
    let _ ← peek
    return some root
  | _ =>
    directives bound false []
    let root ← node true false bound
    let _ ← peek
    return some root

end Compose

/-- A bound on the depth of nodes and the number of their members, from the number of characters. -/
def composeBound (count : Nat) : Nat :=
  32 * (count + 2)

/-- The first document of a source; nothing when there is none. -/
def Tree.ofSource (source : Source) : Except Flaw (Option Tree) :=
  let bound := composeBound source.chars.length
  match (Compose.document bound).run { scan := Scan.ofSource source } with
  | .error flaw => .error flaw
  | .ok (none, _) => .ok none
  | .ok (some root, reader) => .ok (some { root, anchored := reader.anchored, size := bound })

/-- The first document of a text; nothing when there is none. -/
def Tree.ofBytes (bytes : Bytes) : Except Flaw (Option Tree) :=
  Tree.ofSource (Source.ofBytes bytes)

end ContainerKernel.Document
