import ContainerKernel.Document.Token.Scan

/-!
# A cursor on an outline

An outline is a document of the simplest kind: lines of a key, a colon and perhaps
a word, indented by spaces. It holds letters, digits, a few signs and nothing that
starts a comment, a tag, a quotation or a collection in brackets.

The laws here say what the movements of a cursor come to on such a text. Where the
window stands is no part of them. It only matters that the window stays clean: no
byte order mark is at its start, and nothing was asked for that cannot be read. So
a cursor is known by the characters that follow it and by its mark
(`Cursor.Stands`).

The last laws are about reading one word: as a key, which its colon ends, and as a
value, which ends with its line. Words of several lines, quotations and blocks are
not treated.
-/

namespace ContainerKernel.Document

/-! ## Characters -/

/-- Whether the character may stand in a word of an outline. -/
def isWordChar (value : Char) : Bool :=
  value.isAlphanum || value = '_' || value = '-' || value = '(' || value = ')'

/-- Whether the character may stand in an outline. -/
def isOutlineChar (value : Char) : Bool :=
  isWordChar value || value = ' ' || value = ':' || value = '\n'

/-- The characters of words have numbers from 40 to 122. -/
theorem toNat_of_isWordChar {value : Char} (word : isWordChar value = true) :
    40 ≤ value.toNat ∧ value.toNat ≤ 122 := by
  delta isWordChar Char.isAlphanum Char.isAlpha Char.isUpper Char.isLower Char.isDigit at word
  simp only [Bool.or_eq_true, Bool.and_eq_true, decide_eq_true_eq, ge_iff_le,
    UInt32.le_iff_toNat_le] at word
  have numbers : 'A'.val.toNat = 65 ∧ 'Z'.val.toNat = 90 ∧ 'a'.val.toNat = 97 ∧
      'z'.val.toNat = 122 ∧ '0'.val.toNat = 48 ∧ '9'.val.toNat = 57 := by decide
  have same : value.toNat = value.val.toNat := rfl
  rcases word with ((((((upper | lower) | digit) | sign) | sign) | sign) | sign)
  all_goals first | (subst sign; decide) | omega

/-- The characters of outlines are the line feed and others with numbers from 32 to
122. -/
theorem toNat_of_isOutlineChar {value : Char} (inOutline : isOutlineChar value = true) :
    value.toNat = 10 ∨ (32 ≤ value.toNat ∧ value.toNat ≤ 122) := by
  simp only [isOutlineChar, Bool.or_eq_true, decide_eq_true_eq] at inOutline
  rcases inOutline with ((word | rfl) | rfl) | rfl
  · have numbers := toNat_of_isWordChar word
    omega
  all_goals decide

/-- The characters of words may stand in outlines. -/
theorem isOutlineChar_of_isWordChar {value : Char} (word : isWordChar value = true) :
    isOutlineChar value = true := by
  simp [isOutlineChar, word]

/-- A word holds no blank. -/
theorem isSpaceOrTab_of_isWordChar {value : Char} (word : isWordChar value = true) :
    isSpaceOrTab value = false := by
  have numbers := toNat_of_isWordChar word
  simp only [isSpaceOrTab, Bool.or_eq_false_iff, decide_eq_false_iff_not]
  refine ⟨?_, ?_⟩
  all_goals
    rintro rfl
    revert numbers
    decide

/-- The only line end of an outline is the line feed. -/
theorem isBreak_of_isOutlineChar {value : Char} (inOutline : isOutlineChar value = true)
    (other : value ≠ '\n') : isBreak value = false := by
  have numbers := toNat_of_isOutlineChar inOutline
  have notTen : value.toNat ≠ 10 := by
    intro ten
    exact other (Char.ext (UInt32.toNat_inj.mp ten))
  have notReturn : value ≠ '\r' := by
    rintro rfl
    revert numbers
    decide
  simp only [isBreak, other, notReturn, decide_false, Bool.or_eq_false_iff, Bool.false_or,
    decide_eq_false_iff_not]
  refine ⟨⟨?_, ?_⟩, ?_⟩
  all_goals omega

/-- A word holds no line end. -/
theorem isBreak_of_isWordChar {value : Char} (word : isWordChar value = true) :
    isBreak value = false := by
  refine isBreak_of_isOutlineChar (isOutlineChar_of_isWordChar word) ?_
  rintro rfl
  exact absurd word (by decide)

/-- A word: it does not begin with two dashes, nor is it a dash alone. -/
structure IsWord (text : List Char) : Prop where
  plain : ∀ value ∈ text, isWordChar value = true
  nonempty : text ≠ []
  dashed : ∀ rest, text = '-' :: rest → ∃ second later, rest = second :: later ∧ second ≠ '-'

/-- A word begins with a character of words. -/
theorem IsWord.first {word : List Char} (isWord : IsWord word) :
    ∃ first later, word = first :: later ∧ isWordChar first = true := by
  cases word with
  | nil => exact absurd rfl isWord.nonempty
  | cons first later => exact ⟨first, later, rfl, isWord.plain first List.mem_cons_self⟩

/-- A word is not taken for a marker of a document. -/
theorem IsWord.atDocumentMarker {word : List Char} (isWord : IsWord word) (after : List Char) :
    atDocumentMarker (word ++ after) = false := by
  obtain ⟨first, later, rfl, begins⟩ := isWord.first
  unfold Document.atDocumentMarker
  split
  · next rest same =>
    obtain ⟨rfl, tail⟩ := List.cons.inj same
    obtain ⟨second, more, rfl, other⟩ := isWord.dashed later rfl
    exact absurd (List.cons.inj tail).1 other
  · next rest same =>
    obtain ⟨rfl, _⟩ := List.cons.inj same
    exact absurd begins (by decide)
  · rfl

/-! ## Moving a cursor -/

/-- The place some characters further on the line. -/
def Mark.along (mark : Mark) (count : Nat) : Mark :=
  { mark with index := mark.index + count, column := mark.column + count }

/-- Going one character further is going along one character first. -/
theorem Mark.along_succ (mark : Mark) (count : Nat) :
    mark.along (count + 1) = (mark.along 1).along count := by
  simp only [Mark.along, Nat.add_comm count 1, Nat.add_assoc]

/-- Whether a window is as it is on a readable text without byte order marks. -/
structure Window.Clean (window : Window) : Prop where
  unmarked : window.marked = false
  complete : window.complete = true
  unspoilt : window.spoilt = false

/-- A clean window stays clean wherever it begins anew. -/
theorem Window.Clean.extend {window : Window} (clean : window.Clean) (wanted : Nat) :
    (window.extend wanted false).Clean := by
  unfold Window.extend
  split
  · exact ⟨rfl, clean.complete, clean.unspoilt⟩
  · refine ⟨rfl, clean.complete, ?_⟩
    simp only [clean.complete, clean.unspoilt, Bool.not_true, Bool.or_false]

namespace Cursor

/-- What is known of a cursor on an outline. -/
structure Stands (cursor : Cursor) (rest : List Char) (mark : Mark) : Prop where
  follows : cursor.rest = rest
  here : cursor.mark = mark
  clean : cursor.window.Clean
  plain : ∀ value ∈ rest, isOutlineChar value = true

variable {cursor : Cursor} {rest tail : List Char} {mark : Mark} {value : Char}

/-- A cursor on an outline stands at its own mark. -/
theorem Stands.self (stands : cursor.Stands rest mark) : cursor.Stands rest cursor.mark :=
  ⟨stands.follows, rfl, stands.clean, stands.plain⟩

/-- What does not occur in outlines does not follow. -/
theorem Stands.head_ne (stands : cursor.Stands rest mark) (foreign : isOutlineChar value = false) :
    cursor.rest.head? ≠ some value := by
  rw [stands.follows]
  intro first
  rw [stands.plain value (List.mem_of_mem_head? first)] at foreign
  cases foreign

/-- Asking for characters moves the window only. -/
theorem Stands.ask (stands : cursor.Stands rest mark) (count : Nat) :
    (cursor.ask count).Stands rest mark := by
  unfold Cursor.ask
  dsimp only
  split
  · exact stands
  · have unmarked : decide (cursor.rest.head? = some orderMark) = false :=
      decide_eq_false (stands.head_ne (by decide))
    rw [unmarked, Bool.and_false]
    exact ⟨stands.follows, stands.here, stands.clean.extend _, stands.plain⟩

/-- A character of the line is passed over. -/
theorem Stands.skip (stands : cursor.Stands (value :: rest) mark) :
    cursor.skip.Stands rest (mark.along 1) := by
  let moved : Cursor :=
    { cursor with
      rest
      mark := cursor.mark.along 1
      newlines := if isSpaceOrTab value then cursor.newlines else 0 }
  have stood : moved.Stands rest (mark.along 1) :=
    ⟨rfl, congrArg (·.along 1) stands.here, stands.clean, (List.forall_mem_cons.mp stands.plain).2⟩
  have same : cursor.skip = moved.ask 1 := by
    unfold Cursor.skip
    rw [stands.follows]
    rfl
  rw [same]
  exact stood.ask 1

/-- A run goes over the characters at which its condition holds whatever follows
them, and ends behind them. -/
theorem Stands.runFrom {run : List Char} {goesOn : List Char → Bool} (ahead : Nat)
    (goes : ∀ value ∈ run, ∀ after, goesOn (value :: after) = true)
    (stops : tail = [] ∨ goesOn tail = false) (stands : cursor.Stands (run ++ tail) mark) :
    ∃ after, Cursor.runFrom ahead goesOn (run ++ tail) cursor = (run, after) ∧
      after.Stands tail (mark.along run.length) := by
  induction run generalizing cursor mark with
  | nil =>
    refine ⟨cursor, ?_, stands⟩
    rw [List.nil_append]
    cases tail with
    | nil => rfl
    | cons value later =>
      obtain empty | stopped := stops
      · cases empty
      · simp only [Cursor.runFrom, stopped, Bool.false_eq_true, if_false]
  | cons value run inductionHypothesis =>
    obtain ⟨here, later⟩ := List.forall_mem_cons.mp goes
    obtain ⟨after, walked, stood⟩ := inductionHypothesis later (stands.skip.ask ahead)
    refine ⟨after, ?_, ?_⟩
    · simp only [List.cons_append, Cursor.runFrom, here, if_true, walked]
    · rw [List.length_cons, Mark.along_succ]
      exact stood

/-- A run over the cursor's own text goes over the characters at which its condition
holds, and ends behind them. -/
theorem Stands.takeRun {run : List Char} {goesOn : List Char → Bool} (ahead : Nat)
    (goes : ∀ value ∈ run, ∀ after, goesOn (value :: after) = true)
    (stops : tail = [] ∨ goesOn tail = false) (stands : cursor.Stands (run ++ tail) mark) :
    ∃ after, cursor.takeRun ahead goesOn = (run, after) ∧
      after.Stands tail (mark.along run.length) := by
  unfold Cursor.takeRun
  rw [stands.follows]
  exact (stands.ask ahead).runFrom ahead goes stops

/-- Whatever a run goes over, it ends on the outline. -/
theorem Stands.runFrom_ends {goesOn : List Char → Bool} (ahead : Nat)
    (stands : cursor.Stands rest mark) :
    ∃ tail place, (Cursor.runFrom ahead goesOn rest cursor).2.Stands tail place := by
  induction rest generalizing cursor mark with
  | nil => exact ⟨[], mark, stands⟩
  | cons value rest inductionHypothesis =>
    unfold Cursor.runFrom
    split
    · exact inductionHypothesis (stands.skip.ask ahead)
    · exact ⟨_, mark, stands⟩

/-- There is no comment behind a token of an outline. -/
theorem Stands.behind (stands : cursor.Stands rest mark) (target : Nat) (found : List Comment) :
    ∃ after, CommentSearch.behind target found cursor = (found, after) ∧
      after.Stands rest mark := by
  unfold CommentSearch.behind
  split
  · exact ⟨cursor, rfl, stands⟩
  · obtain ⟨tail, place, ends⟩ :=
      @Stands.runFrom_ends _ _ _ (startsWith isSpaceOrTab) 1 (stands.ask 1)
    have uncommented :
        decide ((cursor.takeWhile isSpaceOrTab).2.rest.head? = some '#') = false := by
      rw [Cursor.takeWhile, Cursor.takeRun, stands.follows]
      exact decide_eq_false (ends.head_ne (by decide))
    dsimp only
    rw [uncommented, Bool.and_false]
    exact ⟨_, rfl, stands.ask _⟩

/-- A line end is passed over. -/
theorem Stands.takeBreak (stands : cursor.Stands ('\n' :: rest) mark) :
    ∃ after, cursor.takeBreak = (['\n'], after) ∧
      after.Stands rest ⟨mark.index + 1, mark.line + 1, 0⟩ := by
  refine ⟨cursor.nextLine 1 rest, ?_, ?_⟩
  · unfold Cursor.takeBreak
    rw [stands.follows]
    rfl
  · have asked := stands.ask 2
    refine ⟨rfl, ?_, asked.clean, (List.forall_mem_cons.mp stands.plain).2⟩
    rw [Cursor.nextLine, stands.here]

end Cursor

/-! ## Reading a word -/

/-- Whether a text ends, or goes on with a character of a word. -/
def AtWord (text : List Char) : Prop :=
  ∀ value ∈ text.head?, isWordChar value = true

namespace Gap

variable {cursor : Cursor} {tail : List Char} {mark : Mark} {gap : Gap}

/-- A gap ends where a word begins. -/
theorem take_none (indent bound : Nat) (atWord : AtWord tail) (stands : cursor.Stands tail mark) :
    take indent bound gap cursor = .ok (gap, cursor) := by
  cases bound with
  | zero => rfl
  | succ bound =>
    unfold take
    rw [stands.follows]
    cases tail with
    | nil => rfl
    | cons value later =>
      have word : isWordChar value = true := atWord value rfl
      simp only [isSpaceOrTab_of_isWordChar word, isBreak_of_isWordChar word, Bool.false_eq_true,
        if_false]

/-- The spaces at the start of a line are passed over. -/
theorem take_spaces (indent : Nat) {count bound : Nat} (enough : count ≤ bound)
    (atWord : AtWord tail) (broken : gap.broken = true)
    (stands : cursor.Stands (List.replicate count ' ' ++ tail) mark) :
    ∃ after, take indent bound gap cursor = .ok (gap, after) ∧
      after.Stands tail (mark.along count) := by
  induction count generalizing bound cursor mark with
  | zero => exact ⟨cursor, take_none indent bound atWord stands, stands⟩
  | succ count inductionHypothesis =>
    cases bound with
    | zero => cases enough
    | succ bound =>
      rw [List.replicate_succ, List.cons_append] at stands
      obtain ⟨after, taken, stood⟩ :=
        inductionHypothesis (Nat.le_of_succ_le_succ enough) stands.skip
      refine ⟨after, ?_, ?_⟩
      · unfold take
        rw [stands.follows]
        simp only [show isSpaceOrTab ' ' = true from rfl, broken, if_true,
          show decide (' ' = '\t') = false from rfl, Bool.false_and, Bool.false_eq_true, if_false]
        exact taken
      · rw [Mark.along_succ]
        exact stood

/-- A line end and the spaces of the next line are passed over. -/
theorem take_line (indent : Nat) {count bound : Nat} (enough : count < bound)
    (atWord : AtWord tail)
    (stands : cursor.Stands ('\n' :: List.replicate count ' ' ++ tail) mark) :
    ∃ gap after, take indent bound {} cursor = .ok (gap, after) ∧ gap.broken = true ∧
      after.Stands tail ⟨mark.index + 1 + count, mark.line + 1, count⟩ := by
  cases bound with
  | zero => cases enough
  | succ bound =>
    obtain ⟨next, broke, stood⟩ := Cursor.Stands.takeBreak stands
    let broken : Gap := { blanks := [], firstBreak := ['\n'], broken := true }
    obtain ⟨after, taken, ends⟩ := @take_spaces _ _ _ broken indent _ bound
      (Nat.le_of_lt_succ enough) atWord rfl (stood.ask 1)
    refine ⟨broken, after, ?_, rfl, ?_⟩
    · unfold take
      rw [stands.follows]
      simp only [List.cons_append, show isSpaceOrTab '\n' = false from rfl,
        show isBreak '\n' = true from rfl, broke, Bool.false_eq_true, if_false, if_true]
      exact taken
    · rw [show (⟨mark.index + 1 + count, mark.line + 1, count⟩ : Mark) =
        (⟨mark.index + 1, mark.line + 1, 0⟩ : Mark).along count by simp [Mark.along]]
      exact ends

end Gap

namespace PlainScalar

variable {cursor : Cursor} {word tail : List Char} {mark : Mark}

/-- A plain scalar goes on at each character of a word. -/
theorem goesOn_word {value : Char} (isWord : isWordChar value = true) (after : List Char) :
    goesOn false (value :: after) = true := by
  have notColon : value ≠ ':' := by
    rintro rfl
    exact absurd isWord (by decide)
  simp [goesOn, isSpaceOrTab_of_isWordChar isWord, isBreak_of_isWordChar isWord, notColon]

/-- The first word of a plain scalar is taken up to where it stops. -/
theorem readLines_word (size indent bound : Nat) (isWord : IsWord word)
    (stops : goesOn false tail = false) (stands : cursor.Stands (word ++ tail) mark) :
    ∃ after, after.Stands tail (mark.along word.length) ∧
      readLines size false indent {} cursor (bound + 1) =
        if after.rest.isEmpty || !atBlank after.rest then .ok ⟨word, false, after⟩
        else
          match Gap.take indent size {} after with
          | .error flaw => .error flaw
          | .ok (gap, following) =>
            if following.column < indent then .ok ⟨word, gap.broken, following⟩
            else
              (readLines size false indent gap following bound).map fun reading =>
                { reading with text := word ++ reading.text } := by
  have asked := stands.ask Cursor.markerAhead
  obtain ⟨after, taken, stood⟩ := asked.takeRun 2
    (fun value member => goesOn_word (isWord.plain value member)) (.inr stops)
  refine ⟨after, stood, ?_⟩
  have unmarked : atDocumentMarker (cursor.ask Cursor.markerAhead).rest = false := by
    rw [asked.follows]
    exact isWord.atDocumentMarker tail
  have uncommented : decide ((cursor.ask Cursor.markerAhead).rest.head? = some '#') = false :=
    decide_eq_false (asked.head_ne (by decide))
  have nonempty : word.isEmpty = false := by
    rw [List.isEmpty_eq_false_iff]
    exact isWord.nonempty
  rw [readLines]
  simp only [unmarked, uncommented, Bool.and_false, Bool.or_false, Bool.false_eq_true, if_false,
    taken, nonempty, Bool.not_false, Bool.true_and, decide_eq_true_eq]
  rfl

/-- A key is read up to its colon. -/
theorem read_key (outer : Int) (isWord : IsWord word) (blank : atBlank tail = true)
    (stands : cursor.Stands (word ++ ':' :: tail) mark) :
    ∃ after, read false outer cursor = .ok ⟨word, false, after⟩ ∧
      after.Stands (':' :: tail) (mark.along word.length) := by
  have stops : goesOn false (':' :: tail) = false := by
    simp [goesOn, blank]
  obtain ⟨after, stood, read⟩ := readLines_word cursor.rest.length (outer + 1).toNat
    cursor.rest.length isWord stops stands
  refine ⟨after, ?_, stood⟩
  rw [PlainScalar.read, read, stood.follows, if_pos (by simp [atBlank, isSpaceOrTab, isBreak])]

/-- A value is read with its line and the spaces of the next one, which is not
indented further than the mapping of the value. -/
theorem read_value {outer : Int} {count : Nat} (isWord : IsWord word) (atWord : AtWord tail)
    (dedented : (count : Int) ≤ outer)
    (stands : cursor.Stands (word ++ '\n' :: (List.replicate count ' ' ++ tail)) mark) :
    ∃ after place, read false outer cursor = .ok ⟨word, true, after⟩ ∧
      after.Stands tail place ∧ place.column = count := by
  have stops : goesOn false ('\n' :: (List.replicate count ' ' ++ tail)) = false := by
    simp [goesOn, show isBreak '\n' = true from rfl]
  obtain ⟨after, stood, read⟩ := readLines_word cursor.rest.length (outer + 1).toNat
    cursor.rest.length isWord stops stands
  have enough : count < cursor.rest.length := by
    rw [stands.follows]
    simp only [List.length_append, List.length_cons, List.length_replicate]
    omega
  obtain ⟨gap, following, taken, broken, ends⟩ :=
    Gap.take_line (outer + 1).toNat enough atWord stood
  have within : following.column < (outer + 1).toNat := by
    rw [Cursor.column, ends.here]
    show count < _
    omega
  refine ⟨following, _, ?_, ends, rfl⟩
  rw [PlainScalar.read, read, stood.follows, if_neg (by simp [atBlank, isBreak]), taken]
  simp only [within, if_true, broken]

end PlainScalar

end ContainerKernel.Document
