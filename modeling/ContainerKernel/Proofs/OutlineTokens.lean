import ContainerKernel.Proofs.OutlineScans

/-!
# The tokens of an outline

A scan of an outline stands at a line, at a colon, at a value or at the end
(`Ahead`), and one step leads from each of these places to the next. Over the steps
one thing stays the same: the settled tokens of the queue and those to come are
together the tokens of the outline.

A reader does not take steps. It asks that the first token be ready, which cuts as
many tokens as that needs, and takes it. `Scan.Serves` says which kinds of tokens a
reader gets in this way, by the actual calls alone, and the main statement is that a
scan of an outline serves the tokens of the outline.
-/

namespace ContainerKernel.Document

/-! ## Where a scan stands -/

/-- What a scan of an outline has before it. -/
inductive Ahead where
  /-- Lines; the end of the line before them is passed over already or not. -/
  | lines (broken : Bool) (lines : List Line)
  /-- The colon of a line whose key starts at the mark. -/
  | colon (start : Mark) (line : Line) (later : List Line)
  /-- The word behind a colon. -/
  | value (word : List Char) (later : List Line)
  /-- Nothing: the end has been cut. -/
  | done

namespace Ahead

/-- The text before the scan. -/
def text : Ahead → List Char
  | lines true later => '\n' :: outlineText later
  | lines false [] => []
  | lines false (line :: later) => line.body ++ '\n' :: outlineText later
  | colon _ line later => ':' :: (line.behind ++ '\n' :: outlineText later)
  | value word later => ' ' :: (word ++ '\n' :: outlineText later)
  | done => []

/-- The token that is cut and before which others are still to be put. -/
def pending : Ahead → List TokenKind
  | colon _ line _ => [.scalar line.key .plain]
  | _ => []

/-- The tokens to come, the pending one included. -/
def tokens (indents : List Nat) : Ahead → List TokenKind
  | lines _ later => outlineTokens indents later
  | colon _ line later =>
    starting line.column indents ++
      (line.tokens ++ outlineTokens (opened line.column indents) later)
  | value word later => .scalar word .plain :: outlineTokens indents later
  | done => []

/-- The number of lines that may still begin a mapping. -/
def lineCount : Ahead → Nat
  | lines _ later => later.length
  | colon _ _ later => later.length + 1
  | value _ later => later.length
  | done => 0

/-- The number of steps to the end, or more. -/
def steps : Ahead → Nat
  | lines _ later => 3 * later.length + 1
  | colon _ _ later => 3 * later.length + 3
  | value _ later => 3 * later.length + 2
  | done => 0

/-- The start of the key that a colon is to follow. -/
def keyStart? : Ahead → Option Mark
  | colon start _ _ => some start
  | _ => none

/-- Whether the scan stands where it should: at the column of a line, behind a key
whose mapping is not indented further than the key, or before a value inside of
its mapping. -/
inductive Placed (indents : List Nat) (mark : Mark) (keyAllowed : Bool) : Ahead → Prop where
  | broken (line : Line) (later : List Line) (wellMade : IsOutline (line :: later)) :
      Placed indents mark keyAllowed (.lines true (line :: later))
  | line (line : Line) (later : List Line) (wellMade : IsOutline (line :: later))
      (column : mark.column = line.column) (allowed : keyAllowed = true) :
      Placed indents mark keyAllowed (.lines false (line :: later))
  | lineEnd (column : mark.column = 0) : Placed indents mark keyAllowed (.lines false [])
  | colon (start : Mark) (line : Line) (later : List Line) (fits : line.Fits later)
      (wellMade : IsOutline later) (here : mark = start.along line.key.length)
      (column : start.column = line.column) (inside : ∀ top ∈ indents.head?, top ≤ line.column) :
      Placed indents mark keyAllowed (.colon start line later)
  | value (word : List Char) (later : List Line) (top : Nat) (isWord : IsWord word)
      (wellMade : IsOutline later) (forbidden : keyAllowed = false)
      (innermost : indents.head? = some top) (column : top ≤ mark.column)
      (dedents : ∀ next ∈ later.head?, next.column ≤ top) :
      Placed indents mark keyAllowed (.value word later)
  | done (outside : indents = []) (column : mark.column = 0) :
      Placed indents mark keyAllowed .done

/-- At most one token is pending. -/
theorem pending_length_le (ahead : Ahead) : ahead.pending.length ≤ 1 := by
  cases ahead with
  | colon => exact Nat.le_refl 1
  | lines | value | done => exact Nat.zero_le 1

/-- Lines begin with a word, if there are any. -/
theorem atWord_lines {later : List Line} (wellMade : IsOutline later) :
    AtWord (lines false later).text := by
  cases later with
  | nil => exact fun _ head => nomatch head
  | cons line later => exact wellMade.1.atWord _

/-- Lines are in their place at the column of the first. -/
theorem placed_lines {later : List Line} {indents : List Nat} {mark : Mark}
    (wellMade : IsOutline later) (column : mark.column = firstColumn later) :
    Placed indents mark true (lines false later) := by
  cases later with
  | nil => exact .lineEnd column
  | cons line later => exact .line line later wellMade column rfl

end Ahead

/-- The text of lines is that before a scan that has passed over their first spaces. -/
theorem outlineText_eq (later : List Line) :
    outlineText later =
      List.replicate (firstColumn later) ' ' ++ (Ahead.lines false later).text := by
  cases later <;> rfl

/-- The first column is that of the first line. -/
theorem firstColumn_le {later : List Line} {top : Nat}
    (dedents : ∀ next ∈ later.head?, next.column ≤ top) : firstColumn later ≤ top := by
  cases later with
  | nil => exact Nat.zero_le top
  | cons line later => exact dedents line rfl

namespace Scan

/-- What a scan remembers: no possible key, or the one that starts at a mark and has
the given number. -/
inductive Remembers (scan : Scan) (number : Nat) : Option Mark → Prop where
  | nothing (key : PossibleKey) (single : scan.possibleKeys = [key])
      (impossible : key.possible = false) (unawaited : scan.awaited = []) :
      Remembers scan number none
  | key (key : PossibleKey) (single : scan.possibleKeys = [key]) (possible : key.possible = true)
      (numbered : key.number = number) (awaited : scan.awaited = [(number, 0)]) :
      Remembers scan number (some key.mark)

/-- What is known of a scan of an outline: the tokens of its queue, the columns of the
mappings around it and what it has before it. -/
structure Stands (scan : Scan) (settled : List TokenKind) (indents : List Nat) (ahead : Ahead) :
    Prop where
  cursor : scan.cursor.Stands ahead.text scan.cursor.mark
  placed : ahead.Placed indents scan.cursor.mark scan.keyAllowed
  level : scan.depth = 0
  uncommented : scan.comments = []
  nonempty : 0 < scan.size
  indented : scan.indent :: scan.outerIndents = withOutermost indents
  shallow : indents.length + ahead.lineCount < deepest
  queued : scan.queue.map (·.kind) = settled ++ ahead.pending
  remembers : scan.Remembers (scan.taken + settled.length) ahead.keyStart?

variable {scan : Scan} {settled : List TokenKind} {indents : List Nat}

/-- A step is the search for the token, the dedentation and the token itself. -/
theorem step_of_parts {atToken unrolled next : Scan}
    (searched : toNextToken scan.cursor.mark (scan.size + 1) scan = atToken)
    (dedented : atToken.unroll atToken.cursor.column scan.cursor.mark = unrolled)
    (cut : nextToken { unrolled with cursor := unrolled.cursor.ask Cursor.markerAhead } = .ok next)
    (clean : next.cursor.window.Clean) : scan.step = .ok next := by
  simp only [step, searched, dedented, cut, bind, Except.bind, clean.unspoilt, Bool.false_eq_true,
    if_false]
  rfl

/-- The search for the next line ends at its key. -/
theorem search_lines {broken : Bool} {line : Line} {later : List Line}
    (stands : scan.Stands settled indents (.lines broken (line :: later))) :
    ∃ after, toNextToken scan.cursor.mark (scan.size + 1) scan =
        { scan with cursor := after, keyAllowed := true } ∧
      after.Stands (line.body ++ '\n' :: outlineText later) after.mark ∧
      after.mark.column = line.column ∧ IsOutline (line :: later) := by
  cases stands.placed with
  | broken _ _ wellMade =>
    obtain ⟨bound, large⟩ : ∃ bound, scan.size + 1 = bound + 2 :=
      ⟨scan.size - 1, by have := stands.nonempty; omega⟩
    obtain ⟨after, searched, place, stood, column⟩ := toNextToken_line scan.cursor.mark bound
      (wellMade.1.atWord _).ne_blank stands.level stands.cursor
    exact ⟨after, large ▸ searched, stood.self, stood.here ▸ column, wellMade⟩
  | line _ _ wellMade column allowed =>
    obtain ⟨after, searched, stood⟩ := @toNextToken_spaces scan _ _ scan.cursor.mark scan.size 0
      (wellMade.1.atWord _).ne_blank stands.cursor
    refine ⟨after, ?_, stood.self, stood.here ▸ column, wellMade⟩
    rw [searched, ← allowed]

/-- From the start of a line a scan goes on to its colon. -/
theorem step_lines {broken : Bool} {line : Line} {later : List Line}
    (stands : scan.Stands settled indents (.lines broken (line :: later))) :
    ∃ next start, scan.step = .ok next ∧
      next.Stands (settled ++ ending line.column indents) (goingOn line.column indents)
        (.colon start line later) := by
  obtain ⟨after, searched, stood, column, fits, wellMade⟩ := search_lines stands
  obtain ⟨queue, indent, outers, unrolled, ended, left⟩ := @unroll_outline
    { scan with cursor := after, keyAllowed := true } after.column indents scan.cursor.mark
    stands.level stands.indented
  cases stands.remembers with
  | nothing key single impossible unawaited =>
    have asked := (stood.ask Cursor.markerAhead).self
    have here := (stood.ask Cursor.markerAhead).here
    rw [Line.body_append] at asked
    obtain ⟨behind, required, cut, stays⟩ := @nextToken_key
      { scan with
        cursor := after.ask Cursor.markerAhead
        keyAllowed := true
        queue
        indent
        outerIndents := outers } _ _ _ key fits.isKey (line.atBlank_behind _) stands.level rfl
      single impossible asked
    have sameColumn : (after.column : Int) = line.column := congrArg Int.ofNat column
    have earlier : scan.queue.map (·.kind) = settled :=
      stands.queued.trans (List.append_nil settled)
    have kinds : queue.map (·.kind) = settled ++ ending line.column indents := by
      rw [ended, earlier, sameColumn]
    have count : queue.length = (settled ++ ending line.column indents).length := by
      rw [← kinds, List.length_map]
    rw [sameColumn] at left
    refine ⟨_, (after.ask Cursor.markerAhead).mark,
      step_of_parts searched unrolled cut stays.clean, ?_⟩
    exact
      { cursor := stays.self
        placed := .colon _ line later fits wellMade stays.here
          (by rw [here, column]) le_of_head_goingOn
        level := stands.level
        uncommented := stands.uncommented
        nonempty := stands.nonempty
        indented := left
        shallow := by
          have fewer := (List.dropWhile_suffix (l := indents)
            fun indent : Nat => decide ((line.column : Int) < indent)).length_le
          have shallow := stands.shallow
          simp only [Ahead.lineCount, List.length_cons, goingOn] at shallow ⊢
          omega
        queued := by simp [kinds, Ahead.pending]
        remembers := by
          rw [← count]
          refine .key ⟨true, required, scan.taken + queue.length,
            (after.ask Cursor.markerAhead).mark⟩ rfl rfl rfl ?_
          show (scan.taken + queue.length, 0) :: scan.awaited = [(scan.taken + queue.length, 0)]
          rw [unawaited] }

/-- Inside of the innermost mapping a scan goes on to the next token without ending
any. -/
theorem unroll_inside {after : Cursor} (level : scan.depth = 0)
    (indented : scan.indent :: scan.outerIndents = withOutermost indents)
    (inside : ∀ top ∈ indents.head?, top ≤ after.column) :
    { scan with cursor := after }.unroll after.column scan.cursor.mark =
      { scan with cursor := after } := by
  cases indents with
  | nil =>
    have outermost : scan.outerIndents = [] := (List.cons.inj indented).2
    simp [unroll, bracketed, level, outermost, unrollTo]
  | cons top outer =>
    have here : scan.indent = (top : Nat) := (List.cons.inj indented).1
    have below : ¬ scan.indent > (after.column : Int) := by
      have reached := inside top rfl
      omega
    simp only [unroll, bracketed, level, Nat.lt_irrefl, decide_false, Bool.false_eq_true, if_false,
      gt_iff_lt]
    cases scan.outerIndents with
    | nil => rfl
    | cons next nexts => rw [unrollTo, if_neg below]

/-- From a colon a scan goes on to what stands behind it. -/
theorem step_colon {start : Mark} {line : Line} {later : List Line}
    (stands : scan.Stands settled indents (.colon start line later)) :
    ∃ next, scan.step = .ok next ∧
      next.Stands
        (settled ++ (starting line.column indents ++ [.key, .scalar line.key .plain, .value]))
        (opened line.column indents)
        (match line.value with
          | none => .lines true later
          | some word => .value word later) := by
  cases stands.placed with
  | colon _ _ _ fits wellMade here column inside =>
    obtain ⟨after, searched, stood⟩ := @toNextToken_spaces scan _ _ scan.cursor.mark scan.size 0
      (by simp) stands.cursor
    have place : after.mark = start.along line.key.length := stood.here.trans here
    have reached : ∀ top ∈ indents.head?, top ≤ after.column := by
      intro top innermost
      have near := inside top innermost
      rw [Cursor.column, place]
      simp only [Mark.along]
      omega
    have asked := (stood.self).ask Cursor.markerAhead
    rw [place] at asked
    have shallow := stands.shallow
    simp only [Ahead.lineCount] at shallow
    cases stands.remembers with
    | key key single possible numbered awaited =>
      obtain ⟨behind, queue, indent, outers, cut, stays, kinds, left⟩ := @nextToken_colon_outline
        { scan with cursor := after.ask Cursor.markerAhead } _ (key.mark.along line.key.length)
        settled _ key indents
        (line.atBlank_behind _) stands.level single possible (Nat.le_refl _)
        (Nat.add_le_add_left fits.short _) numbered (numbered ▸ awaited) stands.queued
        stands.indented (by omega) (column ▸ inside) asked
      rw [column] at kinds left
      refine ⟨_, step_of_parts searched
        (unroll_inside stands.level stands.indented reached) cut stays.clean, ?_⟩
      have fewer : (opened line.column indents).length ≤ indents.length + 1 := by
        unfold opened
        split
        · omega
        · exact Nat.le_refl _
      have forgotten : ∀ number, Remembers
          { scan with
            cursor := behind
            keyAllowed := false
            possibleKeys := [{ key with possible := false }]
            awaited := []
            queue
            indent
            outerIndents := outers } number none :=
        fun number => .nothing { key with possible := false } rfl rfl rfl
      have beyond : line.column ≤ behind.mark.column := by
        rw [stays.here]
        simp only [Mark.along]
        omega
      cases opens : line.value with
      | none =>
        obtain ⟨next, others, rfl⟩ := List.exists_cons_of_ne_nil (fits.opens opens)
        rw [Line.behind, opens] at stays
        exact
          { cursor := stays.self
            placed := .broken next others wellMade
            level := stands.level
            uncommented := stands.uncommented
            nonempty := stands.nonempty
            indented := left
            shallow := by
              simp only [Ahead.lineCount]
              omega
            queued := kinds.trans (List.append_nil _).symm
            remembers := forgotten _ }
      | some word =>
        obtain ⟨isWord, dedents⟩ := fits.isValue word opens
        rw [Line.behind, opens] at stays
        exact
          { cursor := stays.self
            placed := .value word later line.column isWord wellMade rfl (head_opened _ _) beyond
              dedents
            level := stands.level
            uncommented := stands.uncommented
            nonempty := stands.nonempty
            indented := left
            shallow := by
              simp only [Ahead.lineCount]
              omega
            queued := kinds.trans (List.append_nil _).symm
            remembers := forgotten _ }

/-- From a value a scan goes on to the next line. -/
theorem step_value {word : List Char} {later : List Line}
    (stands : scan.Stands settled indents (.value word later)) :
    ∃ next, scan.step = .ok next ∧
      next.Stands (settled ++ [.scalar word .plain]) indents (.lines false later) := by
  cases stands.placed with
  | value _ _ top isWord wellMade forbidden innermost column dedents =>
    obtain ⟨after, searched, stood⟩ := @toNextToken_spaces scan _ _ scan.cursor.mark scan.size 1
      (isWord.atWord _).ne_blank stands.cursor
    have reached : ∀ inner ∈ indents.head?, inner ≤ after.column := by
      intro inner head
      cases innermost.symm.trans head
      rw [Cursor.column, stood.here]
      exact Nat.le_succ_of_le column
    have asked := (stood.self).ask Cursor.markerAhead
    rw [outlineText_eq] at asked
    have dedented : (firstColumn later : Int) ≤ scan.indent := by
      cases indents with
      | nil => cases innermost
      | cons inner outer =>
        cases innermost
        rw [(List.cons.inj stands.indented).1]
        exact Int.ofNat_le.mpr (firstColumn_le dedents)
    obtain ⟨following, place, cut, stays, below⟩ := @nextToken_value
      { scan with cursor := after.ask Cursor.markerAhead } _ _ _ _ isWord
      (Ahead.atWord_lines wellMade) stands.level forbidden dedented asked
    refine ⟨_, step_of_parts searched
      (unroll_inside stands.level stands.indented reached) cut stays.clean, ?_⟩
    have earlier : scan.queue.map (·.kind) = settled :=
      stands.queued.trans (List.append_nil settled)
    cases stands.remembers with
    | nothing key single impossible unawaited =>
      exact
        { cursor := stays.self
          placed := Ahead.placed_lines wellMade (stays.here ▸ below)
          level := stands.level
          uncommented := stands.uncommented
          nonempty := stands.nonempty
          indented := stands.indented
          shallow := stands.shallow
          queued := by
            rw [List.map_append, earlier]
            exact (List.append_nil _).symm
          remembers := .nothing key single impossible unawaited }

/-- At the end of the text a scan ends all mappings and the stream, and can do so
again. -/
theorem step_end {ahead : Ahead} (atEnd : ahead = .lines false [] ∨ ahead = .done)
    (stands : scan.Stands settled indents ahead) :
    ∃ next, scan.step = .ok next ∧
      next.Stands (settled ++ (ending (-1) indents ++ [.streamEnd])) [] .done := by
  have column : scan.cursor.mark.column = 0 := by
    obtain rfl | rfl := atEnd
    · cases stands.placed with
      | lineEnd column => exact column
    · cases stands.placed with
      | done _ column => exact column
  have text : scan.cursor.Stands [] scan.cursor.mark := by
    obtain rfl | rfl := atEnd <;> exact stands.cursor
  have earlier : scan.queue.map (·.kind) = settled := by
    obtain rfl | rfl := atEnd <;> exact stands.queued.trans (List.append_nil settled)
  obtain ⟨key, single, impossible, unawaited⟩ : ∃ key, scan.possibleKeys = [key] ∧
      key.possible = false ∧ scan.awaited = [] := by
    obtain rfl | rfl := atEnd
    all_goals
      cases stands.remembers with
      | nothing key single impossible unawaited =>
        exact ⟨key, single, impossible, unawaited⟩
  obtain ⟨after, searched, stood⟩ := @toNextToken_spaces scan [] _ scan.cursor.mark scan.size 0
    (by simp) text
  have atStart : after.mark.column = 0 := stood.here ▸ column
  obtain ⟨queue, indent, outers, unrolled, ended, left⟩ := @unroll_outline
    { scan with cursor := after } after.column indents scan.cursor.mark stands.level stands.indented
  obtain ⟨whole, outermost, around, cut, kinds, outside⟩ := @nextToken_end
    { scan with
      cursor := after.ask Cursor.markerAhead
      queue
      indent
      outerIndents := outers } _ key _ stands.level single impossible left
    atStart (stood.self.ask Cursor.markerAhead)
  have asked := (stood.ask Cursor.markerAhead)
  refine ⟨_, step_of_parts searched unrolled cut asked.clean, ?_⟩
  exact
    { cursor := asked.self
      placed := .done rfl (by rw [asked.here]; exact column)
      level := stands.level
      uncommented := stands.uncommented
      nonempty := stands.nonempty
      indented := by rw [outside, (ending_all _).1]
      shallow := by decide
      queued := by
        rw [kinds, ended, earlier, List.append_assoc, ← List.append_assoc (ending _ _),
          ending_twice]
        exact (List.append_nil _).symm
      remembers := .nothing key single impossible unawaited }

/-! ## All steps -/

/-- Every step but the last leads on: some tokens are settled, and they and the tokens
to come are those that were to come before. -/
theorem step_advances {ahead : Ahead} (unfinished : ahead ≠ .done)
    (stands : scan.Stands settled indents ahead) :
    ∃ next cut around later, scan.step = .ok next ∧ next.Stands (settled ++ cut) around later ∧
      cut ++ later.tokens around = ahead.tokens indents ∧
      ahead.pending.length < cut.length + later.pending.length ∧ later.steps < ahead.steps := by
  cases ahead with
  | lines broken lines =>
    cases lines with
    | nil =>
      have atEnd : Ahead.lines broken [] = .lines false [] := by
        cases stands.placed
        rfl
      obtain ⟨next, stepped, stood⟩ := step_end (.inl atEnd) stands
      exact ⟨next, _, _, _, stepped, stood, by simp [Ahead.tokens, outlineTokens],
        by simp [Ahead.pending], by simp [Ahead.steps]⟩
    | cons line later =>
      obtain ⟨next, start, stepped, stood⟩ := step_lines stands
      exact ⟨next, _, _, _, stepped, stood, rfl, by simp [Ahead.pending],
        by simp [Ahead.steps]; omega⟩
  | colon start line later =>
    obtain ⟨next, stepped, stood⟩ := step_colon stands
    refine ⟨next, _, _, _, stepped, stood, ?_, ?_, ?_⟩
    · simp only [Ahead.tokens, Line.tokens, List.append_assoc]
      cases line.value <;> rfl
    · simp only [Ahead.pending, List.length_append, List.length_cons, List.length_nil]
      omega
    · cases line.value with
      | none =>
        simp only [Ahead.steps]
        omega
      | some word => exact Nat.lt_succ_self _
  | value word later =>
    obtain ⟨next, stepped, stood⟩ := step_value stands
    exact ⟨next, _, _, _, stepped, stood, rfl, by simp [Ahead.pending], by simp [Ahead.steps]⟩
  | done => exact absurd rfl unfinished

/-- The first settled token stands first in the queue. -/
theorem Stands.head {kind : TokenKind} {ahead : Ahead}
    (stands : scan.Stands (kind :: settled) indents ahead) :
    ∃ token queue, scan.queue = token :: queue ∧ token.kind = kind ∧
      queue.map (·.kind) = settled ++ ahead.pending := by
  have queued := stands.queued
  cases held : scan.queue with
  | nil => simp [held] at queued
  | cons token queue =>
    rw [held] at queued
    obtain ⟨same, rest⟩ := List.cons.inj queued
    exact ⟨token, queue, rfl, same, rest⟩

/-- A settled token is taken from the queue, and the others stay. -/
theorem Stands.take {kind : TokenKind} {ahead : Ahead}
    (stands : scan.Stands (kind :: settled) indents ahead) :
    scan.take.Stands settled indents ahead := by
  obtain ⟨token, queue, first, _, rest⟩ := stands.head
  exact
    { cursor := stands.cursor
      placed := stands.placed
      level := stands.level
      uncommented := stands.uncommented
      nonempty := stands.nonempty
      indented := stands.indented
      shallow := stands.shallow
      queued := by
        rw [Scan.take, first]
        exact rest
      remembers := by
        have remembers := stands.remembers
        revert remembers
        generalize ahead.keyStart? = start
        intro remembers
        cases remembers with
        | nothing key single impossible unawaited =>
          exact .nothing key single impossible (by simp [Scan.take, settle, unawaited])
        | key key single possible numbered awaited =>
          refine .key key single possible (numbered.trans ?_) ?_
          · simp only [List.length_cons, Scan.take]
            omega
          · simp [Scan.take, settle, awaited]
            omega }

/-- A settled token is awaited by nobody. -/
theorem awaitedKey?_of_settled {kind : TokenKind} {ahead : Ahead}
    (stands : scan.Stands (kind :: settled) indents ahead) : scan.awaitedKey? = none := by
  have remembers := stands.remembers
  revert remembers
  generalize ahead.keyStart? = start
  intro remembers
  cases remembers with
  | nothing key single impossible unawaited => simp [awaitedKey?, unawaited]
  | key key single possible numbered awaited =>
    have apart : (scan.taken == scan.taken + (kind :: settled).length) = false :=
      beq_false_of_ne (by simp)
    simp only [awaitedKey?, awaited, List.lookup_cons, apart, List.lookup_nil]
    rfl

/-! ## What a reader gets -/

/-- Whether a scan becomes ready as another one, within the steps that the length of
its queue allows. -/
def Fills (scan full : Scan) : Prop :=
  ∃ bound, bound + min scan.queue.length (tokenLookAhead + 1) ≤ tokenLookAhead + 2 ∧
    scan.fill bound = .ok full

variable {full next : Scan}

/-- One round of filling fails at a key that was missed, ends with a full queue, and goes
on with a step otherwise. -/
theorem fill_succ (scan : Scan) (bound : Nat) :
    scan.fill (bound + 1) =
      let enough := scan.queue.length > tokenLookAhead
      if enough && scan.awaitedKey?.any scan.missed then .error .token
      else if enough && !scan.awaitedKey?.any scan.stillPossible then .ok scan
      else
        match scan.step with
        | .error flaw => .error flaw
        | .ok next => next.fill bound :=
  id rfl

/-- A scan is full already, or a step leads on to the full one. -/
theorem fill_cases {bound : Nat} (filled : scan.fill bound = .ok full) :
    (full = scan ∧ ∀ more, scan.fill (more + 1) = .ok scan) ∨
      ∃ (next : Scan) (fewer : Nat), bound = fewer + 1 ∧ next.fill fewer = .ok full ∧
        ∀ more, scan.fill (more + 1) = next.fill more := by
  cases bound with
  | zero =>
    change Except.error _ = _ at filled
    cases filled
  | succ bound =>
    simp only [fill_succ] at filled ⊢
    by_cases missed : (decide (scan.queue.length > tokenLookAhead) &&
        scan.awaitedKey?.any scan.missed) = true
    · rw [if_pos missed] at filled
      cases filled
    · simp only [if_neg missed] at filled ⊢
      by_cases enough : (decide (scan.queue.length > tokenLookAhead) &&
          !scan.awaitedKey?.any scan.stillPossible) = true
      · rw [if_pos enough] at filled
        exact .inl ⟨(Except.ok.inj filled).symm, fun _ => if_pos enough⟩
      · simp only [if_neg enough] at filled ⊢
        cases stepped : scan.step with
        | error flaw =>
          rw [stepped] at filled
          cases filled
        | ok next =>
          rw [stepped] at filled
          exact .inr ⟨next, bound, rfl, filled, fun _ => rfl⟩

/-- More steps than needed do no harm. -/
theorem fill_more {bound : Nat} (filled : scan.fill bound = .ok full) (extra : Nat) :
    scan.fill (bound + extra) = .ok full := by
  induction bound generalizing scan with
  | zero =>
    change Except.error _ = _ at filled
    cases filled
  | succ bound inductionHypothesis =>
    rw [Nat.succ_add]
    obtain ⟨rfl, full⟩ | ⟨next, fewer, same, later, leads⟩ := fill_cases filled
    · exact full _
    · cases same
      rw [leads]
      exact inductionHypothesis later

/-- A scan that is ready stays as it is. -/
theorem fill_again {bound : Nat} (filled : scan.fill bound = .ok full) (more : Nat) :
    full.fill (more + 1) = .ok full := by
  induction bound generalizing scan with
  | zero =>
    change Except.error _ = _ at filled
    cases filled
  | succ bound inductionHypothesis =>
    obtain ⟨rfl, full⟩ | ⟨next, fewer, same, later, _⟩ := fill_cases filled
    · exact full more
    · cases same
      exact inductionHypothesis later

/-- What fills within few steps is ready. -/
theorem ready_of_fills (fills : scan.Fills full) : scan.ready = .ok full := by
  obtain ⟨bound, few, filled⟩ := fills
  have enough : scan.fillBound = bound + (scan.fillBound - bound) := by
    simp only [fillBound, tokenLookAhead] at few ⊢
    omega
  rw [ready, enough]
  exact fill_more filled _

/-- A queue that is long enough is full, unless its first token is awaited. -/
theorem fills_self (long : tokenLookAhead < scan.queue.length)
    (unawaited : scan.awaitedKey? = none) : scan.Fills scan := by
  refine ⟨1, ?_, ?_⟩
  · simp only [tokenLookAhead] at long ⊢
    omega
  · simp [fill_succ, unawaited, long]

/-- A queue that is too short is filled by a step. -/
theorem fills_of_step (short : scan.queue.length ≤ tokenLookAhead) (stepped : scan.step = .ok next)
    (longer : scan.queue.length < next.queue.length) (fills : next.Fills full) :
    scan.Fills full := by
  obtain ⟨bound, few, filled⟩ := fills
  refine ⟨bound + 1, ?_, ?_⟩
  · simp only [tokenLookAhead] at short few ⊢
    omega
  · have lacking : ¬ scan.queue.length > tokenLookAhead := Nat.not_lt.mpr short
    simp only [fill_succ, lacking, decide_false, Bool.false_and, Bool.false_eq_true, if_false,
      stepped]
    exact filled

/-- The kinds of tokens that a scan gives to a reader, one after the other: the first
is ready, no comment stands before it, and the scan that is left when it is taken
gives the others. -/
inductive Serves : Scan → List TokenKind → Prop where
  | nothing (scan : Scan) : Serves scan []
  | token {scan full : Scan} {token : Token} {queue : List Token} {kinds : List TokenKind}
      (fills : scan.Fills full) (first : full.queue = token :: queue)
      (uncommented : full.comments = []) (later : Serves full.take kinds) :
      Serves scan (token.kind :: kinds)

/-- A scan whose queue is too short serves what it serves after a step. -/
theorem Serves.of_step {kinds : List TokenKind} (short : scan.queue.length ≤ tokenLookAhead)
    (stepped : scan.step = .ok next) (longer : scan.queue.length < next.queue.length)
    (serves : next.Serves kinds) : scan.Serves kinds := by
  cases serves with
  | nothing => exact .nothing scan
  | token fills first uncommented later =>
    exact .token (fills_of_step short stepped longer fills) first uncommented later

/-- **A scan of an outline serves the tokens of the outline**: those that are settled
and those to come, in this order and as far as a reader asks.

The recursion is on the steps to the end, then on what is asked for, and at the end
of the text on the tokens that the queue lacks. -/
theorem Stands.serves {scan : Scan} {settled : List TokenKind} {indents : List Nat} {ahead : Ahead}
    (stands : scan.Stands settled indents ahead) {kinds : List TokenKind}
    (asked : kinds <+: settled ++ ahead.tokens indents) : scan.Serves kinds := by
  match kinds, asked with
  | [], _ => exact .nothing scan
  | kind :: kinds, asked =>
    have length := congrArg List.length stands.queued
    rw [List.length_map, List.length_append] at length
    by_cases long : tokenLookAhead < scan.queue.length
    · cases settled with
      | nil =>
        have one := ahead.pending_length_le
        simp only [List.length_nil, tokenLookAhead] at length long
        omega
      | cons first settled =>
        obtain ⟨rfl, rest⟩ := List.cons_prefix_cons.mp asked
        obtain ⟨token, queue, held, same, _⟩ := stands.head
        rw [← same]
        exact .token (fills_self long (awaitedKey?_of_settled stands)) held stands.uncommented
          (stands.take.serves rest)
    · have short : scan.queue.length ≤ tokenLookAhead := Nat.le_of_not_lt long
      by_cases finished : ahead = .done
      · obtain ⟨next, stepped, stood⟩ := step_end (.inr finished) stands
        have longer : scan.queue.length < next.queue.length := by
          have later := congrArg List.length stood.queued
          simp only [List.length_map, List.length_append, List.length_singleton] at later
          simp only [finished, Ahead.pending] at length
          simp only [Ahead.pending] at later
          omega
        have more : kind :: kinds <+: settled ++ (ending (-1) indents ++ [.streamEnd]) ++
            Ahead.tokens [] .done := by
          simp only [finished, Ahead.tokens, List.append_nil] at asked ⊢
          exact asked.trans (List.prefix_append _ _)
        exact .of_step short stepped longer (stood.serves more)
      · obtain ⟨next, cut, around, later, stepped, stood, same, grows, nearer⟩ :=
          step_advances finished stands
        have longer : scan.queue.length < next.queue.length := by
          have total := congrArg List.length stood.queued
          simp only [List.length_map, List.length_append] at total
          omega
        rw [← same, ← List.append_assoc] at asked
        exact .of_step short stepped longer (stood.serves asked)
termination_by (ahead.steps, kinds.length, tokenLookAhead + 1 - scan.queue.length)
decreasing_by
  · exact .right _ (.left _ _ (Nat.lt_succ_self _))
  · subst finished
    exact .right _ (.right _ (by omega))
  · exact .left _ _ nearer

/-! ## From the start of a text -/

/-- The text of an outline holds the characters of outlines. -/
theorem isOutlineChar_of_outlineText {lines : List Line} (wellMade : IsOutline lines) :
    ∀ value ∈ outlineText lines, isOutlineChar value = true := by
  induction lines with
  | nil => exact fun _ member => nomatch member
  | cons line later inductionHypothesis =>
    obtain ⟨fits, others⟩ := wellMade
    have ofWord {word : List Char} (isWord : IsWord word) (value : Char) (member : value ∈ word) :
        isOutlineChar value = true :=
      isOutlineChar_of_isWordChar (isWord.plain value member)
    have behind : ∀ value ∈ line.behind, isOutlineChar value = true := by
      unfold Line.behind
      cases given : line.value with
      | none => exact fun _ member => nomatch member
      | some word => exact List.forall_mem_cons.mpr ⟨rfl, ofWord (fits.isValue word given).1⟩
    simp only [outlineText, Line.body, List.append_assoc, List.cons_append, List.forall_mem_append,
      List.forall_mem_cons]
    refine ⟨fun value member => ?_, ofWord fits.isKey, rfl, behind, rfl, inductionHypothesis others⟩
    rw [List.eq_of_mem_replicate member]
    rfl

/-- At the start of a text that is an outline a scan stands before its lines. -/
theorem stands_ofSource {lines : List Line} (wellMade : IsOutline lines) (nonempty : lines ≠ [])
    (outermost : firstColumn lines = 0) (short : lines.length < deepest) :
    (Scan.ofSource ⟨[outlineText lines], true⟩).Stands [] [] (.lines false lines) := by
  have plain := isOutlineChar_of_outlineText wellMade
  have text : outlineText lines = (Ahead.lines false lines).text := by
    rw [outlineText_eq, outermost]
    rfl
  have whole : Source.chars ⟨[outlineText lines], true⟩ = outlineText lines := by
    simp [Source.chars]
  have unmarked : (outlineText lines).head? ≠ some orderMark := fun first =>
    absurd (plain _ (List.mem_of_mem_head? first)) (by decide)
  have long : 0 < (outlineText lines).length := by
    obtain ⟨line, later, rfl⟩ := List.exists_cons_of_ne_nil nonempty
    simp only [outlineText, List.length_append, List.length_cons]
    omega
  exact
    { cursor :=
        { follows := whole.trans text
          here := rfl
          clean := ⟨by simp [Scan.ofSource, Cursor.ofSource, Window.ofSource, whole, unmarked],
            rfl, rfl⟩
          plain := text ▸ plain }
      placed := Ahead.placed_lines wellMade outermost.symm
      level := rfl
      uncommented := rfl
      nonempty := by rw [Scan.ofSource, whole]; exact long
      indented := rfl
      shallow := by rw [List.length_nil, Nat.zero_add]; exact short
      queued := rfl
      remembers := .nothing {} rfl rfl rfl }

/-- **The tokens of an outline** are served to whoever reads it from its start. -/
theorem serves_ofSource {lines : List Line} (wellMade : IsOutline lines) (nonempty : lines ≠ [])
    (outermost : firstColumn lines = 0) (short : lines.length < deepest) :
    (Scan.ofSource ⟨[outlineText lines], true⟩).Serves (outlineTokens [] lines) :=
  (stands_ofSource wellMade nonempty outermost short).serves (List.prefix_rfl)

end Scan

end ContainerKernel.Document
