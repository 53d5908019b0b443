import ContainerKernel.Proofs.OutlineCursors

/-!
# Outlines and their single tokens

The lines of an outline say which tokens it has (`outlineTokens`): the ends of the
mappings that a line is no longer inside of, the start of a mapping where a line is
further in, and the tokens of the line itself. This module defines that and has one
law for each kind of place where a scan of an outline cuts a token: at a key, at the
colon behind it, at a value and at the end.

A key is cut before it is known to be one. The sign before it, and the start of its
mapping, come into the queue with the colon, in the place that was remembered.
-/

namespace ContainerKernel.Document

/-! ## Outlines -/

/-- A line of an outline. -/
structure Line where
  /-- The number of spaces before the key. -/
  column : Nat
  key : List Char
  /-- The word behind the colon, if there is one. -/
  value : Option (List Char) := none
deriving DecidableEq, Repr, Inhabited

namespace Line

/-- What stands behind the colon. -/
def behind (line : Line) : List Char :=
  match line.value with
  | none => []
  | some word => ' ' :: word

/-- The line without the spaces at its start. -/
def body (line : Line) : List Char :=
  line.key ++ ':' :: line.behind

/-- The tokens of the line itself. -/
def tokens (line : Line) : List TokenKind :=
  [.key, .scalar line.key .plain, .value] ++ line.value.toList.map (.scalar · .plain)

/-- Whether a line is well made before the given lines. A line without a value has
others below it, and below a line with a value none is indented further. -/
structure Fits (line : Line) (later : List Line) : Prop where
  isKey : IsWord line.key
  short : line.key.length ≤ Scan.keySpan
  opens : line.value = none → later ≠ []
  isValue : ∀ word, line.value = some word →
    IsWord word ∧ ∀ next ∈ later.head?, next.column ≤ line.column

end Line

/-- Whether all lines are well made. -/
def IsOutline : List Line → Prop
  | [] => True
  | line :: later => line.Fits later ∧ IsOutline later

/-- The text of an outline. -/
def outlineText : List Line → List Char
  | [] => []
  | line :: later => List.replicate line.column ' ' ++ (line.body ++ '\n' :: outlineText later)

/-- The columns of the mappings that go on at a column, the innermost first. -/
def goingOn (column : Int) (indents : List Nat) : List Nat :=
  indents.dropWhile fun indent : Nat => column < indent

/-- The ends of the mappings that end before a column. -/
def ending (column : Int) (indents : List Nat) : List TokenKind :=
  (indents.takeWhile fun indent : Nat => column < indent).map fun _ => .blockEnd

/-- The columns of mappings with the one around them all. -/
def withOutermost (indents : List Nat) : List Int :=
  indents.map (fun indent : Nat => (indent : Int)) ++ [-1]

/-- The columns of the mappings when one goes on or begins at a column. -/
def opened (column : Nat) (indents : List Nat) : List Nat :=
  if indents.head? = some column then indents else column :: indents

/-- The start of a mapping, if one begins at the column. -/
def starting (column : Nat) (indents : List Nat) : List TokenKind :=
  if indents.head? = some column then [] else [.blockMappingStart]

/-- The tokens of an outline inside of mappings at the given columns. -/
def outlineTokens : List Nat → List Line → List TokenKind
  | indents, [] => ending (-1) indents ++ [.streamEnd]
  | indents, line :: later =>
    ending line.column indents ++
      (starting line.column (goingOn line.column indents) ++
        (line.tokens ++ outlineTokens (opened line.column (goingOn line.column indents)) later))

/-- The column at which lines go on. -/
def firstColumn (lines : List Line) : Nat :=
  (lines.head?.map (·.column)).getD 0

/-- A line goes on behind its body. -/
theorem Line.body_append (line : Line) (tail : List Char) :
    line.body ++ tail = line.key ++ ':' :: (line.behind ++ tail) := by
  simp [Line.body]

/-- What stands behind a colon begins with a blank. -/
theorem Line.atBlank_behind (line : Line) (tail : List Char) :
    atBlank (line.behind ++ '\n' :: tail) = true := by
  unfold Line.behind
  cases line.value <;> rfl

/-- A text that begins with a word is at one. -/
theorem IsWord.atWord {word : List Char} (isWord : IsWord word) (tail : List Char) :
    AtWord (word ++ tail) := by
  obtain ⟨first, rest, rfl, begins⟩ := isWord.first
  intro value head
  cases head
  exact begins

/-- A line begins with a word. -/
theorem Line.Fits.atWord {line : Line} {later : List Line} (fits : line.Fits later)
    (tail : List Char) : AtWord (line.body ++ tail) := by
  rw [Line.body_append]
  exact fits.isKey.atWord _

/-- A word is neither a space nor a line end. -/
theorem AtWord.ne_blank {text : List Char} (atWord : AtWord text) :
    ∀ value ∈ text.head?, value ≠ ' ' ∧ value ≠ '\n' := by
  intro value head
  have word := atWord value head
  refine ⟨?_, ?_⟩
  all_goals
    rintro rfl
    exact absurd word (by decide)

/-- No mapping that goes on is indented more than the column. -/
theorem le_of_head_goingOn {column : Nat} {indents : List Nat} :
    ∀ top ∈ (goingOn column indents).head?, top ≤ column := by
  intro top head
  have kept := List.head?_dropWhile_not
    (fun indent : Nat => decide ((column : Int) < indent)) indents
  rw [goingOn] at head
  rw [Option.mem_def.mp head] at kept
  simp only [decide_eq_false_iff_not] at kept
  omega

/-- Outside of everything all mappings end. -/
theorem ending_all (indents : List Nat) :
    goingOn (-1) indents = [] ∧ ending (-1) indents = indents.map fun _ => .blockEnd := by
  induction indents with
  | nil => exact ⟨rfl, rfl⟩
  | cons indent outer inductionHypothesis =>
    obtain ⟨none, all⟩ := inductionHypothesis
    have outside : (-1 : Int) < (indent : Int) := by omega
    simp only [goingOn, ending] at none all
    simp only [goingOn, ending, List.dropWhile_cons, List.takeWhile_cons, outside, decide_true,
      if_true, List.map_cons, none, all, and_self]

/-- Mappings end in two parts. -/
theorem ending_twice (column : Int) (indents : List Nat) :
    ending column indents ++ ending (-1) (goingOn column indents) = ending (-1) indents := by
  rw [(ending_all _).2, (ending_all _).2, ending, goingOn, ← List.map_append,
    List.takeWhile_append_dropWhile]

/-- The innermost mapping is the one that was opened. -/
theorem head_opened (column : Nat) (indents : List Nat) :
    (opened column indents).head? = some column := by
  unfold opened
  split
  · assumption
  · rfl

/-! ## On the way to the next token -/

namespace Scan

variable {scan : Scan} {tail : List Char} {mark : Mark}

/-- One round of the search for a token: the spaces are passed over, and a line end
starts another round. -/
theorem toNextToken_round (searchStart : Mark) (bound : Nat) {count : Nat}
    (ends : ∀ value ∈ tail.head?, value ≠ ' ')
    (stands : scan.cursor.Stands (List.replicate count ' ' ++ tail) mark) :
    ∃ here, here.Stands tail (mark.along count) ∧
      toNextToken searchStart (bound + 1) scan =
        if startsWith isBreak here.rest then
          toNextToken searchStart bound
            { scan with
              cursor := here.skipBreak, keyAllowed := scan.keyAllowed || !scan.bracketed }
        else { scan with cursor := here } := by
  let blank : Char → Bool := fun value =>
    value = ' ' || (value = '\t' && (scan.bracketed || !scan.keyAllowed))
  have asked := stands.ask 1
  have goes : ∀ value ∈ List.replicate count ' ', ∀ after,
      startsWith blank (value :: after) = true := by
    intro value member after
    rw [List.eq_of_mem_replicate member]
    rfl
  have stops : tail = [] ∨ startsWith blank tail = false := by
    cases tail with
    | nil => exact .inl rfl
    | cons value later =>
      have noTab : value ≠ '\t' := by
        rintro rfl
        exact absurd (stands.plain '\t' (by simp)) (by decide)
      refine .inr ?_
      simp [startsWith, blank, ends value rfl, noTab]
  obtain ⟨here, taken, stood⟩ := asked.takeRun 1 goes stops
  rw [List.length_replicate] at stood
  refine ⟨here, stood, ?_⟩
  have walked : (scan.cursor.ask 1).skipWhile blank = here := by
    rw [Cursor.skipWhile, Cursor.takeWhile, taken]
  have uncommented : here.rest.head? ≠ some '#' := stood.head_ne (by decide)
  rw [toNextToken]
  simp only [asked.clean.unmarked, Bool.and_false, Bool.false_eq_true, if_false]
  rw [show (scan.cursor.ask 1).skipWhile (fun value => value = ' ' ||
    (value = '\t' && (scan.bracketed || !scan.keyAllowed))) = here from walked]
  simp only [takeComments, if_neg uncommented]
  rfl

/-- The spaces before the next token of a line are passed over. -/
theorem toNextToken_spaces (searchStart : Mark) (bound : Nat) {count : Nat}
    (atToken : ∀ value ∈ tail.head?, value ≠ ' ' ∧ value ≠ '\n')
    (stands : scan.cursor.Stands (List.replicate count ' ' ++ tail) mark) :
    ∃ after, toNextToken searchStart (bound + 1) scan = { scan with cursor := after } ∧
      after.Stands tail (mark.along count) := by
  obtain ⟨here, stood, searched⟩ := toNextToken_round searchStart bound
    (fun value first => (atToken value first).1) stands
  have unbroken : startsWith isBreak here.rest = false := by
    rw [stood.follows]
    cases tail with
    | nil => rfl
    | cons value later =>
      exact isBreak_of_isOutlineChar (stood.plain value List.mem_cons_self) (atToken value rfl).2
  rw [unbroken] at searched
  exact ⟨here, searched, stood⟩

/-- A line end and the spaces of the next line, where a key may stand, are passed
over. -/
theorem toNextToken_line (searchStart : Mark) (bound : Nat) {count : Nat}
    (atToken : ∀ value ∈ tail.head?, value ≠ ' ' ∧ value ≠ '\n') (level : scan.depth = 0)
    (stands : scan.cursor.Stands ('\n' :: (List.replicate count ' ' ++ tail)) mark) :
    ∃ after, toNextToken searchStart (bound + 2) scan =
        { scan with cursor := after, keyAllowed := true } ∧
      ∃ place, after.Stands tail place ∧ place.column = count := by
  obtain ⟨here, stood, searched⟩ := @toNextToken_round scan _ mark searchStart (bound + 1) 0
    (by simp) stands
  obtain ⟨following, broke, below⟩ := Cursor.Stands.takeBreak stood
  have allowed : (scan.keyAllowed || !scan.bracketed) = true := by
    simp [bracketed, level]
  rw [stood.follows, if_pos (show startsWith isBreak ('\n' :: _) = true from rfl),
    Cursor.skipBreak, broke, allowed] at searched
  obtain ⟨after, reached, ends⟩ := @toNextToken_spaces
    { scan with cursor := following, keyAllowed := true } _ _ searchStart bound _ atToken below
  exact ⟨after, searched.trans reached, _, ends, Nat.zero_add count⟩

/-! ## Indentation -/

/-- The mappings that are indented more than a column are ended. -/
theorem unrollTo_outline (column : Int) {indents : List Nat}
    (mark : Mark) (indented : scan.indent :: scan.outerIndents =
      withOutermost indents) :
    ∃ queue indent outers,
      unrollTo column scan.outerIndents mark scan =
        { scan with queue, indent, outerIndents := outers } ∧
      queue.map (·.kind) = scan.queue.map (·.kind) ++ ending column indents ∧
      indent :: outers = withOutermost (goingOn column indents) := by
  induction indents generalizing scan mark with
  | nil =>
    obtain ⟨_, noOuter⟩ := List.cons.inj indented
    refine ⟨scan.queue, scan.indent, scan.outerIndents, ?_, by simp [ending], indented⟩
    show unrollTo column scan.outerIndents mark scan = scan
    rw [noOuter]
    rfl
  | cons innermost indents inductionHypothesis =>
    rw [withOutermost, List.map_cons, List.cons_append] at indented
    obtain ⟨here, outer⟩ := List.cons.inj indented
    obtain ⟨next, nexts, around⟩ : ∃ next nexts, scan.outerIndents = next :: nexts := by
      rw [outer]
      cases indents with
      | nil => exact ⟨_, _, rfl⟩
      | cons => exact ⟨_, _, rfl⟩
    rw [around, unrollTo]
    by_cases further : column < (innermost : Int)
    · rw [if_pos (by rw [here]; exact further)]
      obtain ⟨queue, indent, outers, unrolled, queued, left⟩ := @inductionHypothesis
        { scan.push .blockEnd (scan.blockEndMark mark) with
          indent := next, outerIndents := nexts } (scan.blockEndMark mark)
        (show next :: nexts = withOutermost indents from around ▸ outer)
      refine ⟨queue, indent, outers, unrolled, ?_, ?_⟩
      · rw [queued]
        simp [push, ending, further]
      · rw [left]
        simp [goingOn, further]
    · rw [if_neg (by rw [here]; exact further)]
      refine ⟨scan.queue, scan.indent, scan.outerIndents, rfl, ?_, ?_⟩
      · simp [ending, further]
      · simp only [withOutermost, goingOn, List.dropWhile_cons, further, decide_false,
          Bool.false_eq_true, if_false, List.map_cons, List.cons_append]
        rw [here, outer]

/-- Outside of brackets the mappings that are indented more than a column are
ended. -/
theorem unroll_outline (column : Int) {indents : List Nat}
    (searchStart : Mark) (level : scan.depth = 0)
    (indented : scan.indent :: scan.outerIndents =
      withOutermost indents) :
    ∃ queue indent outers,
      scan.unroll column searchStart = { scan with queue, indent, outerIndents := outers } ∧
      queue.map (·.kind) = scan.queue.map (·.kind) ++ ending column indents ∧
      indent :: outers = withOutermost (goingOn column indents) := by
  have outside : scan.bracketed = false := by
    simp [bracketed, level]
  rw [unroll, outside]
  exact unrollTo_outline column _ indented

/-! ## Single tokens -/

/-- Where a word begins, a plain scalar is cut. -/
theorem content_word {first : Char} {later : List Char} (word : isWordChar first = true)
    (dashed : first = '-' → startsWith isWordChar later = true) :
    scan.content first later = scan.plainScalar := by
  have other : ∀ sign, isWordChar sign = false → first ≠ sign := by
    rintro sign foreign rfl
    rw [word] at foreign
    cases foreign
  have goesOn : first = '-' → atBlank later = false ∧ startsWith isSpaceOrTab later = false := by
    intro dash
    have begins := dashed dash
    cases later with
    | nil => cases begins
    | cons second more =>
      have blank := isSpaceOrTab_of_isWordChar begins
      have unbroken := isBreak_of_isWordChar begins
      simp [atBlank, startsWith, blank, unbroken]
  have starts : scan.plainMayStart first later = true := by
    by_cases dash : first = '-'
    · simp [plainMayStart, dash, (goesOn dash).2]
    · simp [plainMayStart, isIndicator, dash, isSpaceOrTab_of_isWordChar word,
        isBreak_of_isWordChar word, other '?' (by decide), other ':' (by decide),
        other ',' (by decide), other '[' (by decide), other ']' (by decide),
        other '\x7b' (by decide), other '\x7d' (by decide), other '#' (by decide),
        other '&' (by decide), other '*' (by decide), other '!' (by decide),
        other '|' (by decide), other '>' (by decide), other '\'' (by decide),
        other '"' (by decide), other '%' (by decide), other '@' (by decide),
        other (Char.ofNat 0x60) (by decide)]
  have notDash : (first = '-' && atBlank later) = false := by
    by_cases dash : first = '-'
    · rw [(goesOn dash).1, Bool.and_false]
    · rw [decide_eq_false dash, Bool.false_and]
  unfold content
  split <;> try exact absurd word (by decide)
  simp only [notDash, other '?' (by decide), other ':' (by decide), other '|' (by decide),
    other '>' (by decide), starts, decide_false, Bool.false_and, Bool.false_eq_true, if_false,
    if_true]

/-- A cut token keeps its place when the comment behind it is looked for. -/
theorem takeCommentBehind_outline (target : Nat) (stands : scan.cursor.Stands tail mark) :
    ∃ after, scan.takeCommentBehind target = { scan with cursor := after } ∧
      after.Stands tail mark := by
  unfold takeCommentBehind
  split
  · exact ⟨scan.cursor, rfl, stands⟩
  · obtain ⟨after, searched, stood⟩ := stands.behind target scan.comments
    exact ⟨after, by rw [searched], stood⟩

/-- The next token where a word begins is a plain scalar. -/
theorem nextToken_word {word : List Char} (isWord : IsWord word)
    (stands : scan.cursor.Stands (word ++ tail) mark) :
    ∃ target, scan.nextToken = scan.plainScalar.map (·.takeCommentBehind target) := by
  have unmarked : atDocumentMarker scan.cursor.rest = false := by
    rw [stands.follows]
    exact isWord.atDocumentMarker tail
  obtain ⟨first, later, rfl, begins⟩ := isWord.first
  have noDirective : first ≠ '%' := by
    rintro rfl
    exact absurd begins (by decide)
  have dashed : first = '-' → startsWith isWordChar (later ++ tail) = true := by
    rintro rfl
    obtain ⟨second, more, rfl, _⟩ := isWord.dashed later rfl
    exact isWord.plain second (by simp)
  refine ⟨scan.commentTarget first, ?_⟩
  unfold nextToken
  rw [unmarked, stands.follows]
  simp only [List.cons_append, noDirective, decide_false, Bool.and_false, Bool.false_eq_true,
    if_false, content_word begins dashed]

/-- The next token at a colon before a blank is the sign of a value. -/
theorem nextToken_colon (blank : atBlank tail = true)
    (stands : scan.cursor.Stands (':' :: tail) mark) :
    ∃ target, scan.nextToken = scan.valueSign.map (·.takeCommentBehind target) := by
  refine ⟨scan.commentTarget ':', ?_⟩
  have sign : scan.content ':' tail = scan.valueSign := by
    simp [content, blank]
  unfold nextToken
  rw [stands.follows]
  simp [atDocumentMarker, sign]

/-- A word where a key may stand is remembered as a possible key. -/
theorem plainScalar_key {reading : PlainScalar.Reading} {key : PossibleKey}
    (level : scan.depth = 0) (allowed : scan.keyAllowed = true)
    (single : scan.possibleKeys = [key]) (impossible : key.possible = false)
    (read : PlainScalar.read false scan.indent scan.cursor = .ok reading) :
    ∃ required, scan.plainScalar = .ok
      { scan with
        cursor := reading.after
        keyAllowed := reading.atLineStart
        possibleKeys := [⟨true, required, scan.nextNumber, scan.cursor.mark⟩]
        awaited := (scan.nextNumber, 0) :: scan.awaited
        queue := scan.queue ++ [⟨.scalar reading.text .plain, scan.cursor.mark⟩] } := by
  have outside : scan.bracketed = false := by
    simp [bracketed, level]
  refine ⟨decide (scan.indent = scan.cursor.column), ?_⟩
  simp only [plainScalar, outside, read, pushContent, saveKey, allowed, dropKey, possibleKey,
    single, List.headD_cons, impossible, setPossibleKey, level, push, bind, Except.bind, pure,
    Except.pure, if_true, Bool.not_false, List.tail_cons, Bool.true_and]

/-- A word where no key may stand is a token and nothing else. -/
theorem plainScalar_value {reading : PlainScalar.Reading} (level : scan.depth = 0)
    (forbidden : scan.keyAllowed = false)
    (read : PlainScalar.read false scan.indent scan.cursor = .ok reading) :
    scan.plainScalar = .ok
      { scan with
        cursor := reading.after
        keyAllowed := reading.atLineStart
        queue := scan.queue ++ [⟨.scalar reading.text .plain, scan.cursor.mark⟩] } := by
  have outside : scan.bracketed = false := by
    simp [bracketed, level]
  simp only [plainScalar, outside, read, pushContent, saveKey, forbidden, push, bind, Except.bind,
    pure, Except.pure, Bool.false_eq_true, if_false]

/-- A key is cut and remembered. -/
theorem nextToken_key {word : List Char} {key : PossibleKey} (isWord : IsWord word)
    (blank : atBlank tail = true) (level : scan.depth = 0) (allowed : scan.keyAllowed = true)
    (single : scan.possibleKeys = [key]) (impossible : key.possible = false)
    (stands : scan.cursor.Stands (word ++ ':' :: tail) mark) :
    ∃ after required,
      scan.nextToken = .ok
        { scan with
          cursor := after
          keyAllowed := false
          possibleKeys := [⟨true, required, scan.nextNumber, scan.cursor.mark⟩]
          awaited := (scan.nextNumber, 0) :: scan.awaited
          queue := scan.queue ++ [⟨.scalar word .plain, scan.cursor.mark⟩] } ∧
      after.Stands (':' :: tail) (mark.along word.length) := by
  obtain ⟨target, next⟩ := nextToken_word isWord stands
  obtain ⟨behind, read, stood⟩ := PlainScalar.read_key scan.indent isWord blank stands
  obtain ⟨required, cut⟩ := plainScalar_key level allowed single impossible read
  obtain ⟨after, looked, stays⟩ := @takeCommentBehind_outline
    { scan with
      cursor := behind
      keyAllowed := false
      possibleKeys := [⟨true, required, scan.nextNumber, scan.cursor.mark⟩]
      awaited := (scan.nextNumber, 0) :: scan.awaited
      queue := scan.queue ++ [⟨.scalar word .plain, scan.cursor.mark⟩] } _ _ target stood
  refine ⟨after, required, ?_, stays⟩
  rw [next, cut]
  exact congrArg Except.ok looked

/-- A value is cut together with the end of its line. -/
theorem nextToken_value {word : List Char} {count : Nat} (isWord : IsWord word)
    (atWord : AtWord tail) (level : scan.depth = 0) (forbidden : scan.keyAllowed = false)
    (dedented : (count : Int) ≤ scan.indent)
    (stands : scan.cursor.Stands (word ++ '\n' :: (List.replicate count ' ' ++ tail)) mark) :
    ∃ after place,
      scan.nextToken = .ok
        { scan with
          cursor := after
          keyAllowed := true
          queue := scan.queue ++ [⟨.scalar word .plain, scan.cursor.mark⟩] } ∧
      after.Stands tail place ∧ place.column = count := by
  obtain ⟨target, next⟩ := nextToken_word isWord stands
  obtain ⟨behind, place, read, stood, column⟩ :=
    PlainScalar.read_value isWord atWord dedented stands
  have cut := plainScalar_value level forbidden read
  obtain ⟨after, looked, stays⟩ := @takeCommentBehind_outline
    { scan with
      cursor := behind
      keyAllowed := true
      queue := scan.queue ++ [⟨.scalar word .plain, scan.cursor.mark⟩] } _ _ target stood
  refine ⟨after, place, ?_, stays, column⟩
  rw [next, cut]
  exact congrArg Except.ok looked

/-- A token can be put behind the first ones of the queue. -/
theorem insert_behind {front back : List TokenKind} (kind : TokenKind) (start : Mark)
    (queued : scan.queue.map (·.kind) = front ++ back) :
    ∃ queue, scan.insert (scan.taken + front.length) kind start = { scan with queue } ∧
      queue.map (·.kind) = front ++ kind :: back := by
  refine ⟨_, by rw [insert, if_neg (by omega)], ?_⟩
  rw [Nat.add_sub_cancel_left, List.map_append, List.map_cons, List.map_take, List.map_drop, queued,
    List.take_left, List.drop_left]

/-- A mapping begins before the last tokens of the queue, unless one is there already. -/
theorem roll_outline {front back : List TokenKind} {column : Nat} (start : Mark)
    (level : scan.depth = 0) (queued : scan.queue.map (·.kind) = front ++ back)
    {indents : List Nat} (indented : scan.indent :: scan.outerIndents = withOutermost indents)
    (shallow : indents.length < deepest) (inside : ∀ top ∈ indents.head?, top ≤ column) :
    ∃ queue indent outers,
      scan.roll column (scan.taken + front.length) .blockMappingStart start =
        .ok { scan with queue, indent, outerIndents := outers } ∧
      queue.map (·.kind) = front ++ (starting column indents ++ back) ∧
      indent :: outers = withOutermost (opened column indents) := by
  have outside : scan.bracketed = false := by
    simp [bracketed, level]
  unfold starting opened
  by_cases there : indents.head? = some column
  · have reached : scan.indent ≥ column := by
      cases indents with
      | nil => cases there
      | cons top outer =>
        cases there
        exact Int.le_of_eq (List.cons.inj indented).1.symm
    refine ⟨scan.queue, scan.indent, scan.outerIndents, ?_, ?_, ?_⟩
    · rw [roll, outside, if_pos (by simp [reached])]
    · rw [if_pos there]
      exact queued
    · rw [if_pos there]
      exact indented
  · have further : ¬ scan.indent ≥ column := by
      cases indents with
      | nil =>
        rw [(List.cons.inj indented).1]
        omega
      | cons top outer =>
        have below := inside top rfl
        have other : top ≠ column := fun same => there (congrArg some same)
        rw [(List.cons.inj indented).1]
        show ¬ (top : Int) ≥ column
        omega
    have room : ¬ scan.outerIndents.length ≥ deepest := by
      have length := congrArg List.length indented
      simp only [withOutermost, List.length_cons, List.length_append, List.length_map,
        List.length_nil] at length
      omega
    obtain ⟨queue, inserted, kinds⟩ := insert_behind .blockMappingStart start queued
    refine ⟨queue, column, scan.indent :: scan.outerIndents, ?_, ?_, ?_⟩
    · rw [roll, outside, if_neg (by simp; omega), if_neg room, inserted]
    · rw [if_neg there]
      exact kinds
    · rw [if_neg there, indented]
      rfl

/-- The colon behind a key makes a key of it. -/
theorem nextToken_colon_outline {front : List TokenKind} {kind : TokenKind} {key : PossibleKey}
    {indents : List Nat} (blank : atBlank tail = true) (level : scan.depth = 0)
    (single : scan.possibleKeys = [key]) (possible : key.possible = true)
    (sameLine : mark.line ≤ key.mark.line) (near : mark.index ≤ key.mark.index + keySpan)
    (numbered : key.number = scan.taken + front.length)
    (awaited : scan.awaited = [(key.number, 0)])
    (queued : scan.queue.map (·.kind) = front ++ [kind])
    (indented : scan.indent :: scan.outerIndents = withOutermost indents)
    (shallow : indents.length < deepest) (inside : ∀ top ∈ indents.head?, top ≤ key.mark.column)
    (stands : scan.cursor.Stands (':' :: tail) mark) :
    ∃ after queue indent outers,
      scan.nextToken = .ok
        { scan with
          cursor := after
          keyAllowed := false
          possibleKeys := [{ key with possible := false }]
          awaited := []
          queue
          indent
          outerIndents := outers } ∧
      after.Stands tail (mark.along 1) ∧
      queue.map (·.kind) =
        front ++ (starting key.mark.column indents ++ [.key, kind, .value]) ∧
      indent :: outers = withOutermost (opened key.mark.column indents) := by
  obtain ⟨target, next⟩ := nextToken_colon blank stands
  obtain ⟨withKey, inserted, kinds⟩ := insert_behind .key key.mark queued
  obtain ⟨withStart, indent, outers, rolled, opening, columns⟩ := @roll_outline
    { scan with queue := withKey } _ _ key.mark.column key.mark level kinds _ indented shallow
    inside
  have still : scan.stillPossible key = true := by
    simp [stillPossible, possible, stands.here, sameLine, near]
  have sign : scan.valueSign = .ok
      { scan with
        cursor := scan.cursor.skip
        keyAllowed := false
        possibleKeys := [{ key with possible := false }]
        awaited := []
        queue := withStart ++ [⟨.value, scan.cursor.mark⟩]
        indent
        outerIndents := outers } := by
    rw [← numbered] at inserted
    have rolledHere : ({ scan with queue := withKey } : Scan).roll key.mark.column key.number
        .blockMappingStart key.mark = .ok
          { scan with queue := withStart, indent, outerIndents := outers } := by
      rw [numbered]
      exact rolled
    have innermost : scan.possibleKey = key := by
      rw [possibleKey, single]
      rfl
    rw [valueSign, innermost]
    simp only [still, if_true, valueSignAfter, inserted, rolledHere, bind, Except.bind]
    simp [noKey, settle, setPossibleKey, possibleKey, pushSign, push, single, awaited, pure,
      Except.pure]
  obtain ⟨after, looked, stays⟩ := @takeCommentBehind_outline
    { scan with
      cursor := scan.cursor.skip
      keyAllowed := false
      possibleKeys := [{ key with possible := false }]
      awaited := []
      queue := withStart ++ [⟨.value, scan.cursor.mark⟩]
      indent
      outerIndents := outers } _ _ target stands.skip
  refine ⟨after, withStart ++ [⟨.value, scan.cursor.mark⟩], indent, outers, ?_, stays, ?_, columns⟩
  · rw [next, sign]
    exact congrArg Except.ok looked
  · rw [List.map_append, opening]
    simp

/-- The end of a text is cut with the ends of all mappings. -/
theorem nextToken_end {key : PossibleKey} {indents : List Nat} (level : scan.depth = 0)
    (single : scan.possibleKeys = [key]) (impossible : key.possible = false)
    (indented : scan.indent :: scan.outerIndents = withOutermost indents)
    (column : mark.column = 0) (stands : scan.cursor.Stands [] mark) :
    ∃ queue indent outers,
      scan.nextToken = .ok
        { scan with keyAllowed := false, queue, indent, outerIndents := outers } ∧
      queue.map (·.kind) =
        scan.queue.map (·.kind) ++ (ending (-1) indents ++ [.streamEnd]) ∧
      indent :: outers = withOutermost (goingOn (-1) indents) := by
  have atStart : scan.cursor.mark.column = 0 := by
    rw [stands.here, column]
  obtain ⟨queue, indent, outers, unrolled, ended, left⟩ :=
    unroll_outline (-1) scan.cursor.mark level indented
  refine ⟨queue ++ [⟨.streamEnd, scan.cursor.mark⟩], indent, outers, ?_, ?_, left⟩
  · unfold nextToken
    rw [stands.follows]
    simp only [endStream, atStart, if_true, unrolled, dropKey, possibleKey, single, List.headD_cons,
      impossible, Bool.not_false, bind, Except.bind, pure, Except.pure, push]
  · rw [List.map_append, ended]
    simp

end Scan

end ContainerKernel.Document
