import ContainerKernel.Document.Page.Scalar

/-!
# Writing a node as a document

A node is written as it was read: with its tags, anchors and comments, in brackets or by
indentation, each scalar in its own style where that style can hold it. Only empty lines and the
widths of blanks are lost. The step of indentation is free to choose.

A node is written in two parts, since its surroundings may put comments between them: its start,
which for a scalar is everything, and its members.
-/

namespace ContainerKernel.Document

/-- The tag that a node is written with, if any, and whether its text has to be quoted. -/
def writtenTag (node : Node) : Option Tag × Bool :=
  let info := node.info
  if info.tagged then (some info.tag, false)
  else
    match node with
    | .scalar _ _ value =>
      if (Meaning.ofText true value).tag = info.tag then (none, false)
      else if info.tag = .str then (none, true)
      else (some info.tag, false)
    | _ => (none, false)

/-- Whether the character stands in a written tag as it is. -/
def isWrittenTagChar (value : Char) : Bool :=
  value.isAlphanum || value = '_' || value = '-' || value = ';' || value = '/' || value = '?' ||
    value = ':' || value = '@' || value = '&' || value = '=' || value = '+' || value = '$' ||
    value = ',' || value = '.' || value = '~' || value = '*' || value = '\'' || value = '(' ||
    value = ')' || value = '[' || value = ']'

/-- The characters that write a part of a tag: some bytes stand for themselves, others in digits. -/
def tagContent (text : Bytes) : List Char :=
  text.flatMap fun byte =>
    let value := Char.ofNat byte.toNat
    if isWrittenTagChar value then [value]
    else '%' :: WrittenScalar.hexCapitals 2 byte.toNat

/-- The characters that write a tag. -/
def tagForm (tag : Tag) : List Char :=
  match tag.text with
  | 0x21 :: 0x21 :: suffix => '!' :: '!' :: tagContent suffix
  | 0x21 :: suffix => '!' :: tagContent suffix
  | text => '!' :: '<' :: tagContent text ++ ['>']

namespace Page

/-- Write an anchor, if there is one. -/
def putAnchor (page : Page) : Option (List Char) → Page
  | none => page
  | some name => page.putSign ('&' :: name) true false false

/-- Write a tag, if there is one. -/
def putTag (page : Page) : Option Tag → Page
  | none => page
  | some tag => page.putSign (tagForm tag) true false false

end Page

namespace Node

/-- The style that a scalar asks for. -/
def wantedStyle (style : ScalarStyle) (forceQuotes : Bool) (text : List Char) : ScalarStyle :=
  if style = .plain then
    if text.any (· = '\n') then .literal
    else if forceQuotes then .doubleQuoted
    else .plain
  else style

/-- Let the comments of a node wait, as its start asks for. -/
def await (node : Node) (tail : List Char) (page : Page) : Page :=
  match node with
  | .scalar info _ _ => page.await info.remarks tail
  | .reference info _ _ _ => page.await info.remarks []
  | .sequence info _ _ => page.await { head := info.remarks.head } []
  | .mapping info _ _ => page.await { head := info.remarks.head } tail

/-- Whether a node has no members, and cannot be shown by indentation. -/
def isEmptyCollection : Node → Bool
  | .sequence _ _ items => items.isEmpty
  | .mapping _ _ entries => entries.isEmpty
  | _ => false

/-- Whether a node is a collection that asks for indentation. -/
def wantsIndentation : Node → Bool
  | .sequence _ bracketed _ => !bracketed
  | .mapping _ bracketed _ => !bracketed
  | _ => false

/-- The number of bytes of a text. -/
def byteLength (text : List Char) : Nat :=
  (encodeChars text).length

/-- The length of a key without a sign: its anchor, its tag and its text. -/
def keyLength (node : Node) : Nat :=
  let tag := match (writtenTag node).1 with
    | some tag => tag.text.length
    | none => 0
  let anchor := byteLength (node.info.anchor.getD [])
  match node with
  | .reference _ name _ _ => byteLength name
  | .scalar _ _ value => anchor + tag + byteLength value
  | _ => anchor + tag

/-- The length up to which a key needs no sign. -/
def longestSimpleKey : Nat := 128

/-- Whether a key needs no sign: it is short, on one line, and no collection with members. -/
def isSimpleKey (node : Node) : Bool :=
  (match node with
    | .scalar _ _ value => !(Shape.ofText value).multiline
    | .reference .. => true
    | _ => node.isEmptyCollection) && node.keyLength ≤ longestSimpleKey

/-- Write the start of a node; for scalars and aliases that is all. -/
def start (node : Node) (simpleKey afterDash : Bool) (page : Page) : Page :=
  let (tag, forceQuotes) := writtenTag node
  match node with
  | .reference _ name _ _ => page.putSign ('*' :: name) true false false
  | .scalar info style value =>
    let chosen := Shape.chosenStyle (page.brackets > 0) simpleKey
      (wantedStyle style forceQuotes value) value
    let page := (page.putAnchor info.anchor).putTag tag
    { (page.indented true afterDash).putScalar chosen value with indent := page.indent }
  | _ => (page.putAnchor node.info.anchor).putTag tag

/-- Whether a collection is written in brackets at a place. -/
def inBrackets (node : Node) (page : Page) : Bool :=
  page.brackets > 0 || !node.wantsIndentation || node.isEmptyCollection

/--
The comment behind a key, when its value is about to be written. A scalar without a comment of its
own takes it over; before a collection shown by indentation it is written at once; and otherwise
it waits.
-/
def settleKeyComment (value : Node) (page : Page) : Page :=
  if page.behindKey.isEmpty then page
  else
    match value with
    | .scalar .. =>
      if page.behind.isEmpty then { page with behind := page.behindKey, behindKey := [] } else page
    | .reference .. => page
    | _ =>
      if value.wantsIndentation then
        let written := { page with behind := page.behindKey }.putBehind
        { written with behind := page.behind, behindKey := [] }
      else page

/-- Start a collection in brackets. -/
def openBrackets (sign : Char) (afterDash : Bool) (page : Page) : Page :=
  { (page.putSign [sign] true true false).indented true afterDash with
    brackets := page.brackets + 1 }

mutual

/-- Write the members of a node after its start. The bound is on the depth. -/
def members (node : Node) (afterDash : Bool) (page : Page) : Nat → Page
  | 0 => page
  | bound + 1 =>
    match node with
    | .sequence info _ items =>
      if node.inBrackets page then
        let opened := openBrackets '[' afterDash page
        let written := (bracketItems items true false opened bound).await
          { info.remarks with head := [] } []
        let closed := { written with brackets := page.brackets, indent := page.indent }
        let closed := if closed.column = 0 then closed.putMargin else closed
        (closed.putSign [']'] false false false).putBehind.putFoot
      else
        let written := blockItems items (page.indented false afterDash) bound
        { written.await { info.remarks with head := [] } [] with indent := page.indent }
    | .mapping info _ entries =>
      if node.inBrackets page then
        let opened := openBrackets '\x7b' afterDash page
        let (inside, tail, trailing) := bracketEntries entries true false [] opened bound
        let written := inside.await { info.remarks with head := [] } tail
        let comma := !(written.head.isEmpty && written.foot.isEmpty && written.tail.isEmpty) &&
          !entries.isEmpty && !trailing
        let written := if comma then written.putSign [','] false false false else written
        let closed := { written.putHead with brackets := page.brackets, indent := page.indent }
        (closed.putSign ['\x7d'] false false false).putBehind.putFoot
      else
        let (inside, tail) := blockEntries entries [] (page.indented false afterDash) bound
        let written := (inside.await { info.remarks with head := [] } tail).putHead
        { written with indent := page.indent }
    | _ => page

/-- Write the members of a sequence shown by indentation. -/
def blockItems (items : List Node) (page : Page) : Nat → Page
  | 0 => page
  | bound + 1 =>
    match items with
    | [] => page
    | item :: rest =>
      let page := (item.await [] page).putHead.putMargin
      let page := item.start false true (page.putSign ['-'] true false true)
      let page := item.members true page.putBehind.putFoot bound
      blockItems rest page bound

/-- Write the entries of a mapping shown by indentation; the foot of the last one is left over. -/
def blockEntries (entries : List (Node × Node)) (tail : List Char) (page : Page) :
    Nat → Page × List Char
  | 0 => (page, tail)
  | bound + 1 =>
    match entries with
    | [] => (page, tail)
    | (key, value) :: rest =>
      let bare := key.withFoot []
      let page := (bare.await tail page).putHead.putMargin
      let page := if page.behind.isEmpty then page
        else { page with behindKey := page.behind, behind := [] }
      let simple := bare.isSimpleKey
      let page := if simple then page else page.putSign ['?'] true false true
      let page := bare.members false (bare.start simple false page) bound
      let page := value.await [] page
      let page :=
        if simple then page.putSign [':'] false false false
        else page.putMargin.putSign [':'] true false true
      let page := value.start false false (value.settleKeyComment page)
      let page := value.members false page.putBehind.putFoot bound
      blockEntries rest key.foot page bound

/--
Write the members of a sequence in brackets; `trailing` tells whether the comma after the member
before is written already.
-/
def bracketItems (items : List Node) (first trailing : Bool) (page : Page) : Nat → Page
  | 0 => page
  | bound + 1 =>
    match items with
    | [] => page
    | item :: rest =>
      let page := item.await [] page
      let page := if first || trailing then page else page.putSign [','] false false false
      let page := page.putHead
      let page := if page.column = 0 then page.putMargin else page
      let commaWritten := page.commentFollows
      let page := item.start false false page
      let page := if page.commentFollows then page.putSign [','] false false false else page
      let page := item.members false page.putBehind.putFoot bound
      bracketItems rest false commaWritten page bound

/-- Write the entries of a mapping in brackets; the foot of the last one is left over. -/
def bracketEntries (entries : List (Node × Node)) (first trailing : Bool) (tail : List Char)
    (page : Page) : Nat → Page × List Char × Bool
  | 0 => (page, tail, trailing)
  | bound + 1 =>
    match entries with
    | [] => (page, tail, trailing)
    | (key, value) :: rest =>
      let bare := key.withFoot []
      let page := bare.await tail page
      let page := if first || trailing then page else page.putSign [','] false false false
      let page := page.putHead
      let page := if page.column = 0 then page.putMargin else page
      let simple := bare.isSimpleKey
      let page := if simple then page else page.putSign ['?'] true false false
      let page := bare.members false (bare.start simple false page) bound
      let page := value.await [] page
      let page :=
        if simple then page.putSign [':'] false false false
        else page.putSign [':'] true false false
      let commaWritten := page.commentFollows
      let page := value.start false false page
      let page := if page.commentFollows then page.putSign [','] false false false else page
      let page := value.members false page.putBehind.putFoot bound
      bracketEntries rest false commaWritten key.foot page bound

end

/--
The text of a document with the node as its root, under a step of indentation. The bound is on the
number of nodes.
-/
def render (node : Node) (step bound : Nat) : List Char :=
  let page := (node.await [] { step }).putHead
  let page := (node.start false false page).putBehind.putFoot
  let page := node.members false page bound
  let page := { { page with footIndent := some 0 }.putFoot with footIndent := none }.putMargin
  page.written.reverse

end Node

end ContainerKernel.Document
