import ContainerKernel.Document.Scalar.Block
import ContainerKernel.Document.Scalar.Plain
import ContainerKernel.Document.Token.Comments
import ContainerKernel.Document.Token.Name

/-!
# Cutting a document into tokens

The scan moves a cursor over the document and cuts tokens and comments, one token at a time and
only as far as its reader asks. Two things make a token depend on what comes later. A mapping key
needs no sign before it, so that a token turns out to be a key only at the colon behind it: every
token that may still become one is remembered, one for each level of brackets, and a key sign is
then put before it. And collections that are shown by indentation end where a line is indented
less.

The tokens that are cut but not taken yet stand in a queue. The reader takes a token only when two
more stand behind it, and not while it is awaited: as long as it may turn out to be a key. A flaw
that is met before that is met by the reader, however far behind the token it stands.
-/

namespace ContainerKernel.Document

/-- The token that may turn out to be a mapping key on a level of brackets. -/
structure PossibleKey where
  /-- Whether there is such a token. -/
  possible : Bool := false
  /-- Whether nothing but a key may stand at its place. -/
  required : Bool := false
  /-- The number of tokens before it. -/
  number : Nat := 0
  mark : Mark := {}
deriving DecidableEq, Repr, Inhabited

/-- The state of a scan. -/
structure Scan where
  cursor : Cursor
  /-- The number of characters of the document. -/
  size : Nat
  /-- The column of the innermost collection shown by indentation; minus one outside of all. -/
  indent : Int := -1
  /-- The columns around it, the innermost first. -/
  outerIndents : List Int := []
  /-- Whether a key may stand here. -/
  keyAllowed : Bool := true
  /-- The number of levels of brackets around the cursor. -/
  depth : Nat := 0
  /-- The possible key of each level of brackets, the innermost first. -/
  possibleKeys : List PossibleKey := [{}]
  /-- The numbers of the awaited tokens, each with the depth at which it may be a key. -/
  awaited : List (Nat × Nat) := []
  /-- The tokens that are cut but not taken. -/
  queue : List Token := []
  /-- The number of tokens that are taken. -/
  taken : Nat := 0
  /-- The comments that no token has met yet. -/
  comments : List Comment := []

namespace Scan

/-- The depth to which collections may be nested. -/
def deepest : Nat := 10000

/-- Whether the cursor is inside brackets. -/
def bracketed (scan : Scan) : Bool :=
  scan.depth > 0

/-- The number of the next token. -/
def nextNumber (scan : Scan) : Nat :=
  scan.taken + scan.queue.length

/-- Add a token that starts at a mark. -/
def push (scan : Scan) (kind : TokenKind) (start : Mark) : Scan :=
  { scan with queue := scan.queue ++ [⟨kind, start⟩] }

/--
Insert a token so that `number` tokens come before it. When more are taken already it goes to the
end of the queue.
-/
def insert (scan : Scan) (number : Nat) (kind : TokenKind) (start : Mark) : Scan :=
  if number < scan.taken then scan.push kind start
  else
    let place := number - scan.taken
    { scan with queue := scan.queue.take place ++ ⟨kind, start⟩ :: scan.queue.drop place }

/-! ## Indentation -/

/--
Where a collection that is shown by indentation ends: normally just before the blanks that lead
to the next token, but before the comments in its own column when those follow it.
-/
def blockEndMark (scan : Scan) (mark : Mark) : Mark :=
  let rec look (stop : Nat) (mark : Mark) : List Comment → Mark
    | [] => mark
    | comment :: earlier =>
      if comment.endIndex < stop then mark
      else
        let inColumn := (comment.start.column : Int) = scan.indent + 1
        look comment.searchIndex (if inColumn then comment.start else mark) earlier
  look mark.index mark scan.comments.reverse

/-- End the collections that are indented more than a column. -/
def unrollTo (column : Int) : List Int → Mark → Scan → Scan
  | [], _, scan => scan
  | outer :: outers, mark, scan =>
    if scan.indent > column then
      let mark := scan.blockEndMark mark
      unrollTo column outers mark
        { scan.push .blockEnd mark with indent := outer, outerIndents := outers }
    else scan

/-- End the collections that are indented more than a column; inside brackets there are none. -/
def unroll (scan : Scan) (column : Int) (searchStart : Mark) : Scan :=
  if scan.bracketed then scan
  else
    unrollTo column scan.outerIndents { searchStart with index := searchStart.index - 1 } scan

/-- Start a collection at a column, if that is further in; its token goes to the given number. -/
def roll (scan : Scan) (column : Nat) (number : Nat) (kind : TokenKind) (mark : Mark) :
    Except Flaw Scan :=
  if scan.bracketed || scan.indent ≥ column then .ok scan
  else if scan.outerIndents.length ≥ deepest then .error .token
  else
    .ok
      { scan.insert number kind mark with
        indent := column, outerIndents := scan.indent :: scan.outerIndents }

/-! ## Possible keys -/

/-- The possible key of the innermost level. -/
def possibleKey (scan : Scan) : PossibleKey :=
  scan.possibleKeys.headD {}

/-- Replace the possible key of the innermost level. -/
def setPossibleKey (scan : Scan) (key : PossibleKey) : Scan :=
  { scan with possibleKeys := key :: scan.possibleKeys.tail }

/-- Await the token of a number no longer. -/
def settle (scan : Scan) (number : Nat) : Scan :=
  { scan with awaited := scan.awaited.eraseP (·.1 = number) }

/-- The innermost level has no possible key any more. -/
def noKey (scan : Scan) : Scan :=
  scan.setPossibleKey { scan.possibleKey with possible := false }

/-- Give up the possible key of the innermost level, unless it is required. -/
def dropKey (scan : Scan) : Except Flaw Scan :=
  let key := scan.possibleKey
  if !key.possible then .ok scan
  else if key.required then .error .token
  else .ok (scan.noKey.settle key.number)

/-- Remember that the next token may turn out to be a key. -/
def saveKey (scan : Scan) : Except Flaw Scan :=
  if scan.keyAllowed then do
    let dropped ← scan.dropKey
    let number := scan.nextNumber
    let saved := dropped.setPossibleKey
      { possible := true
        required := !scan.bracketed && scan.indent = scan.cursor.column
        number
        mark := scan.cursor.mark }
    return { saved with awaited := (number, scan.depth) :: saved.awaited }
  else .ok scan

/-- The number of characters that a key without a sign may span. -/
def keySpan : Nat := 1024

/-- Whether a possible key is still one: it must be on this line and near. -/
def stillPossible (scan : Scan) (key : PossibleKey) : Bool :=
  key.possible && key.mark.line ≥ scan.cursor.mark.line &&
    scan.cursor.mark.index ≤ key.mark.index + keySpan

/-- Whether a possible key had to be one, and no longer can. -/
def missed (scan : Scan) (key : PossibleKey) : Bool :=
  key.possible && key.required && !scan.stillPossible key

/-! ## Tokens -/

/-- Pass over one character and add a token for it. -/
def pushSign (scan : Scan) (kind : TokenKind) : Scan :=
  { scan.push kind scan.cursor.mark with cursor := scan.cursor.skip }

/--
The start of a collection in brackets. Until a token inside may be a key, the number kept for the
new level is that of the bracket itself.
-/
def openBracket (scan : Scan) (kind : TokenKind) : Except Flaw Scan := do
  let saved ← scan.saveKey
  if saved.depth ≥ deepest then throw .token
  else
    return { saved.pushSign kind with
      depth := saved.depth + 1
      possibleKeys :=
        { number := saved.nextNumber, mark := saved.cursor.mark } :: saved.possibleKeys
      keyAllowed := true }

/--
The end of a collection in brackets. The token whose number is kept for the level is not awaited
any more; where nothing inside could be a key, that is the opening bracket.
-/
def closeBracket (scan : Scan) (kind : TokenKind) : Except Flaw Scan := do
  let dropped ← scan.dropKey
  let left :=
    if dropped.bracketed then
      { dropped.settle dropped.possibleKey.number with
        depth := dropped.depth - 1, possibleKeys := dropped.possibleKeys.tail }
    else dropped
  return { left.pushSign kind with keyAllowed := false }

/-- The comma between the members of a collection in brackets. -/
def comma (scan : Scan) : Except Flaw Scan := do
  let dropped ← scan.dropKey
  return { dropped.pushSign .flowEntry with keyAllowed := true }

/-- The dash before a member of a sequence. -/
def dash (scan : Scan) : Except Flaw Scan := do
  if !scan.bracketed && !scan.keyAllowed then throw .token
  else
    let rolled ← scan.roll scan.cursor.column scan.nextNumber .blockSequenceStart scan.cursor.mark
    let dropped ← rolled.dropKey
    return { dropped.pushSign .blockEntry with keyAllowed := true }

/-- The sign before a key. -/
def keySign (scan : Scan) : Except Flaw Scan := do
  if !scan.bracketed && !scan.keyAllowed then throw .token
  else
    let rolled ← scan.roll scan.cursor.column scan.nextNumber .blockMappingStart scan.cursor.mark
    let dropped ← rolled.dropKey
    return { dropped.pushSign .key with keyAllowed := !scan.bracketed }

/-- The colon behind a key without a sign, which gets one now. -/
def valueSignAfter (scan : Scan) (key : PossibleKey) : Except Flaw Scan := do
  let inserted := scan.insert key.number .key key.mark
  let rolled ← inserted.roll key.mark.column key.number .blockMappingStart key.mark
  return { (rolled.noKey.settle key.number).pushSign .value with keyAllowed := false }

/-- The colon before a value. -/
def valueSign (scan : Scan) : Except Flaw Scan := do
  let key := scan.possibleKey
  if scan.stillPossible key then scan.valueSignAfter key
  else if scan.missed key || (!scan.bracketed && !scan.keyAllowed) then throw .token
  else
    let rolled ← scan.noKey.roll scan.cursor.column scan.nextNumber .blockMappingStart
      scan.cursor.mark
    return { rolled.pushSign .value with keyAllowed := !scan.bracketed }

/-- A token that may be a key, with the cursor behind it. -/
def pushContent (scan : Scan) (kind : TokenKind) (after : Cursor) : Except Flaw Scan := do
  let saved ← scan.saveKey
  return { saved.push kind scan.cursor.mark with cursor := after, keyAllowed := false }

/-- A scalar on the lines below. The comment behind its header belongs to it. -/
def blockScalar (scan : Scan) (folded : Bool) : Except Flaw Scan := do
  let dropped ← scan.dropKey
  let start := scan.cursor.mark
  let reading ← BlockScalar.read folded scan.indent scan.cursor
  let comments :=
    if reading.comment.isEmpty then scan.comments
    else
      scan.comments ++ [{ side := .line, text := reading.comment, target := start.index, start }]
  return { dropped.push (.scalar reading.text (if folded then .folded else .literal)) start with
    cursor := reading.after, comments, keyAllowed := true }

/-- A scalar without quotes. -/
def plainScalar (scan : Scan) : Except Flaw Scan := do
  let reading ← PlainScalar.read scan.bracketed scan.indent scan.cursor
  let pushed ← scan.pushContent (.scalar reading.text .plain) reading.after
  return { pushed with keyAllowed := reading.atLineStart }

/-- Whether the character means something other than itself at the start of a scalar. -/
def isIndicator (value : Char) : Bool :=
  value = '-' || value = '?' || value = ':' || value = ',' || value = '[' || value = ']' ||
    value = '\x7b' || value = '\x7d' || value = '#' || value = '&' || value = '*' ||
    value = '!' || value = '|' || value = '>' || value = '\'' || value = '"' || value = '%' ||
    value = '@' || value = Char.ofNat 0x60

/-- Whether a scalar without quotes may start here. -/
def plainMayStart (scan : Scan) (value : Char) (rest : List Char) : Bool :=
  !(isIndicator value || isSpaceOrTab value || isBreak value) ||
    (value = '-' && !startsWith isSpaceOrTab rest) ||
    (!scan.bracketed && (value = '?' || value = ':') && !atBlank rest)

/-- The token that starts with the given character. -/
def content (scan : Scan) (value : Char) (rest : List Char) : Except Flaw Scan :=
  match value with
  | '[' => scan.openBracket .flowSequenceStart
  | '\x7b' => scan.openBracket .flowMappingStart
  | ']' => scan.closeBracket .flowSequenceEnd
  | '\x7d' => scan.closeBracket .flowMappingEnd
  | ',' => scan.comma
  | '*' => do
    let (name, after) ← NameToken.readName scan.cursor
    scan.pushContent (.reference name) after
  | '&' => do
    let (name, after) ← NameToken.readName scan.cursor
    scan.pushContent (.anchor name) after
  | '!' => do
    let (handle, suffix, after) ← NameToken.readTag scan.cursor
    scan.pushContent (.tag handle suffix) after
  | '\'' => do
    let (text, after) ← QuotedScalar.read true scan.cursor
    scan.pushContent (.scalar text .singleQuoted) after
  | '"' => do
    let (text, after) ← QuotedScalar.read false scan.cursor
    scan.pushContent (.scalar text .doubleQuoted) after
  | _ =>
    if value = '-' && atBlank rest then scan.dash
    else if value = '?' && (scan.bracketed || atBlank rest) then scan.keySign
    else if value = ':' && (scan.bracketed || atBlank rest) then scan.valueSign
    else if value = '|' && !scan.bracketed then scan.blockScalar false
    else if value = '>' && !scan.bracketed then scan.blockScalar true
    else if scan.plainMayStart value rest then scan.plainScalar
    else .error .token

/-- The token that a comment behind the next one belongs to. -/
def commentTarget (scan : Scan) (value : Char) : Nat :=
  let here := scan.cursor.mark.index
  if value = (if scan.bracketed then ',' else ':') then
    (scan.queue.getLast?.map (·.start.index)).getD 0
  else here

/-- Add the comment behind the last token, which a dash alone does not get. -/
def takeCommentBehind (scan : Scan) (target : Nat) : Scan :=
  if scan.queue.getLast?.map (·.kind) = some .blockEntry then scan
  else
    let (comments, cursor) := CommentSearch.behind target scan.comments scan.cursor
    { scan with comments, cursor }

/-- The end of the document, which may be asked for again and again. -/
def endStream (scan : Scan) : Except Flaw Scan := do
  let mark := scan.cursor.mark
  let mark := if mark.column = 0 then mark else { mark with line := mark.line + 1, column := 0 }
  let dropped ← (scan.unroll (-1) mark).dropKey
  return { dropped.push .streamEnd mark with
    cursor := { scan.cursor with mark }, keyAllowed := false }

/-- A directive before a document. -/
def directive (scan : Scan) : Except Flaw Scan := do
  let dropped ← (scan.unroll (-1) scan.cursor.mark).dropKey
  let (kind, after) ← NameToken.readDirective scan.cursor
  return { dropped.push kind scan.cursor.mark with cursor := after, keyAllowed := false }

/-- A marker of the start or the end of a document. -/
def documentMarker (scan : Scan) (kind : TokenKind) : Except Flaw Scan := do
  let dropped ← (scan.unroll (-1) scan.cursor.mark).dropKey
  return { dropped.push kind scan.cursor.mark with
    cursor := Cursor.skipMany 3 scan.cursor, keyAllowed := false }

/-! ## Steps -/

/-- Pass over a comment sign and what follows it up to the next token or line. -/
def takeComments (scan : Scan) (searchStart : Mark) : Scan :=
  if scan.cursor.rest.head? = some '#' then
    let before := match scan.queue.reverse with
      | ⟨.flowEntry, _⟩ :: token :: _ => some token
      | token :: _ => some token
      | [] => none
    let (comments, cursor) :=
      CommentSearch.run scan.bracketed scan.indent searchStart before scan.comments scan.cursor
    { scan with comments, cursor }
  else scan

/--
Pass over blanks, comments and line ends up to the next token. Tabs are blanks where no key may
stand. While a byte order mark stands at the start of the window, the first character of a line is
passed over as well. The first argument bounds the number of lines.
-/
def toNextToken (searchStart : Mark) : Nat → Scan → Scan
  | 0, scan => scan
  | bound + 1, scan =>
    let cursor := scan.cursor.ask 1
    let cursor := if cursor.column = 0 && cursor.window.marked then cursor.skip else cursor
    let tabs := scan.bracketed || !scan.keyAllowed
    let cursor := cursor.skipWhile fun value => value = ' ' || (value = '\t' && tabs)
    let scan := { scan with cursor }.takeComments searchStart
    if startsWith isBreak scan.cursor.rest then
      toNextToken searchStart bound
        { scan with
          cursor := scan.cursor.skipBreak, keyAllowed := scan.keyAllowed || !scan.bracketed }
    else scan

/-- The next token, from its first character on. -/
def nextToken (scan : Scan) : Except Flaw Scan :=
  match scan.cursor.rest with
  | [] => scan.endStream
  | value :: rest =>
    if scan.cursor.column = 0 && value = '%' then scan.directive
    else if scan.cursor.column = 0 && atDocumentMarker scan.cursor.rest then
      scan.documentMarker (if value = '-' then .documentStart else .documentEnd)
    else
      (scan.content value rest).map fun next => next.takeCommentBehind (scan.commentTarget value)

/-- Cut the next token. On the way nothing may be asked for that cannot be read. -/
def step (scan : Scan) : Except Flaw Scan := do
  let searchStart := scan.cursor.mark
  let atToken := toNextToken searchStart (scan.size + 1) scan
  let unrolled := atToken.unroll atToken.cursor.column searchStart
  let next ← { unrolled with cursor := unrolled.cursor.ask Cursor.markerAhead }.nextToken
  if next.cursor.window.spoilt then throw .unreadable else return next

/-! ## Taking tokens -/

/-- The number of tokens that have to stand behind one that is taken. -/
def tokenLookAhead : Nat := 2

/-- The possible key that the first token of the queue is awaited for. -/
def awaitedKey? (scan : Scan) : Option PossibleKey := do
  let level ← scan.awaited.lookup scan.taken
  if level ≤ scan.depth then scan.possibleKeys[scan.depth - level]? else none

/--
Cut tokens until the first one of the queue can be taken. The first argument bounds the number of
tokens to cut.
-/
def fill : Nat → Scan → Except Flaw Scan
  | 0, _ => .error .token
  | bound + 1, scan =>
    let enough := scan.queue.length > tokenLookAhead
    if enough && scan.awaitedKey?.any scan.missed then .error .token
    else if enough && !scan.awaitedKey?.any scan.stillPossible then .ok scan
    else
      match scan.step with
      | .error flaw => .error flaw
      | .ok next => fill bound next

/-- The number of tokens that may have to be cut before one can be taken. -/
def fillBound (scan : Scan) : Nat :=
  scan.size + tokenLookAhead + 2

/-- The scan when its next token can be taken. -/
def ready (scan : Scan) : Except Flaw Scan :=
  scan.fill scan.fillBound

/-- Take the first token of the queue, which is awaited no longer. -/
def take (scan : Scan) : Scan :=
  { scan.settle scan.taken with queue := scan.queue.tail, taken := scan.taken + 1 }

/-- The start of the scan of a source. -/
def ofSource (source : Source) : Scan :=
  { cursor := Cursor.ofSource source
    size := source.chars.length }

end Scan

end ContainerKernel.Document
