import Mathlib.Data.List.Forall2
import ContainerKernel.Document.Node.Compose
import ContainerKernel.Proofs.OutlineTokens

/-!
# The nodes of an outline

The reading of nodes is a state with flaws, and so is the reading of values from
them. What such an action comes to is said by `Ensures`: from every state that
satisfies a condition it succeeds, with a value and a state that satisfy another. It
never says what happens if the action succeeds.

Of the state it only matters which tokens are still to come and that no comment
waits (`TokenReader.Reads`). The functions that read a node from tokens take bounds,
and for each there is a least bound that is enough.

Settings are written as sections: names at the margin, each with fields below it.
The main statement is that their text is read as a mapping of the sections' names to
mappings of words to words. Deeper outlines are not treated.
-/

namespace ContainerKernel.Document

/-! ## Actions that succeed -/

/-- Whether an action, begun in a state that satisfies `before`, succeeds with a value
and a state that satisfy `after`. -/
def Ensures {σ ε α : Type} (before : σ → Prop) (action : StateT σ (Except ε) α)
    (after : α → σ → Prop) : Prop :=
  ∀ state, before state → ∃ value next, action state = .ok (value, next) ∧ after value next

namespace Ensures

variable {σ ε α β : Type} {before : σ → Prop} {action : StateT σ (Except ε) α}
  {middle after : α → σ → Prop}

/-- Two actions one after the other ensure what the second ensures after the
first. -/
theorem bind {later : β → σ → Prop} {next : α → StateT σ (Except ε) β}
    (first : Ensures before action middle)
    (rest : ∀ value, Ensures (middle value) (next value) later) :
    Ensures before (action >>= next) later := by
  intro state holds
  obtain ⟨value, between, acted, reached⟩ := first state holds
  obtain ⟨result, final, finished, ends⟩ := rest value between reached
  refine ⟨result, final, ?_, ends⟩
  simp only [Bind.bind, StateT.bind, acted, Except.bind]
  exact finished

/-- A fact about no state is assumed for the whole action. -/
theorem assuming {fact : Prop} (ensures : fact → Ensures before action after) :
    Ensures (fun state => fact ∧ before state) action after :=
  fun state holds => ensures holds.1 state holds.2

/-- An action ensures whatever follows from what it ensures. -/
theorem mono (ensures : Ensures before action middle)
    (implies : ∀ value state, middle value state → after value state) :
    Ensures before action after := by
  intro state holds
  obtain ⟨value, next, acted, reached⟩ := ensures state holds
  exact ⟨value, next, acted, implies value next reached⟩

end Ensures

/-! ## Single tokens -/

/-- Whether a node without properties begins with the token; only scalars and mappings
shown by indentation count. -/
def TokenKind.opensNode : TokenKind → Bool
  | .scalar _ _ | .blockMappingStart => true
  | _ => false

/-- What is known of a reader: the tokens that it gets, and that no comment waits. -/
structure TokenReader.Reads (reader : TokenReader) (kinds : List TokenKind) : Prop where
  serves : reader.scan.Serves kinds
  quiet : reader.waiting = {}
  stemless : reader.stem = []

/-- What is known of a reader that has looked at its next token. -/
structure TokenReader.Holds (reader : TokenReader) (kind : TokenKind) (kinds : List TokenKind) :
    Prop where
  reads : reader.Reads (kind :: kinds)
  later : reader.scan.take.Serves kinds

/-- A scan that is full fills itself. -/
theorem Scan.Fills.again {scan full : Scan} (fills : scan.Fills full) : full.Fills full := by
  obtain ⟨bound, _, filled⟩ := fills
  refine ⟨1, ?_, fill_again filled 0⟩
  simp only [tokenLookAhead]
  omega

/-- Whether the node is a word without quotes, tag or comments. -/
def Node.Spells (word : List Char) (node : Node) : Prop :=
  ∃ line, node = .scalar { line, tag := Compose.usualScalarTag .plain word } .plain word

namespace Compose

open TokenReader

variable {kind : TokenKind} {kinds : List TokenKind}

/-- Looking at a token finds the next one and keeps it. -/
theorem ensures_peek :
    Ensures (Reads · (kind :: kinds)) peek fun token reader =>
      token.kind = kind ∧ reader.Holds kind kinds := by
  intro reader reads
  generalize shape : kind :: kinds = asked at reads
  have serves := reads.serves
  cases serves with
  | nothing => cases shape
  | @token _ full token queue others fills first uncommented later =>
    cases shape
    refine ⟨token, { reader with scan := full }, ?_, rfl,
      ⟨.token fills.again first uncommented later, reads.quiet, reads.stemless⟩, later⟩
    have same : { full with queue := token :: queue, comments := [] } = full := by
      rw [← first, ← uncommented]
    simp only [peek, Bind.bind, StateT.bind, get, getThe, MonadStateOf.get, StateT.get, liftM,
      monadLift, MonadLift.monadLift, StateT.lift, Scan.ready_of_fills fills, Except.bind,
      Pure.pure, Except.pure, first, uncommented, gather]
    exact congrArg (fun scan => Except.ok (token, { reader with scan })) same

/-- The token that was looked at is passed over. -/
theorem ensures_advance :
    Ensures (Holds · kind kinds) advance fun _ reader => reader.Reads kinds :=
  fun _ holds => ⟨(), _, rfl, holds.later, holds.reads.quiet, holds.reads.stemless⟩

/-- No comment waits to be taken. -/
theorem ensures_takeRemarks :
    Ensures (Holds · kind kinds) takeRemarks fun remarks reader =>
      remarks = {} ∧ reader.Holds kind kinds :=
  fun _ holds => ⟨_, _, rfl, holds.reads.quiet, ⟨holds.reads.serves, rfl, rfl⟩, holds.later⟩

/-- No comment is kept for a collection. -/
theorem ensures_takeStem :
    Ensures (Holds · kind kinds) takeStem fun stem reader => stem = [] ∧ reader.Holds kind kinds :=
  fun _ holds => ⟨_, _, rfl, holds.reads.stemless, ⟨holds.reads.serves, holds.reads.quiet, rfl⟩,
    holds.later⟩

/-- A node without an anchor needs no number. -/
theorem ensures_openAnchor (before : TokenReader → Prop) :
    Ensures before (openAnchor none) fun _ => before :=
  fun reader holds => ⟨_, reader, rfl, holds⟩

/-- A node that begins with its content has no properties. -/
theorem ensures_properties (opens : kind.opensNode = true) :
    Ensures (Holds · kind kinds) properties fun found reader =>
      (∃ start, found.1 = { start }) ∧ found.2.kind = kind ∧ reader.Holds kind kinds := by
  intro reader holds
  obtain ⟨token, next, peeked, same, held⟩ := ensures_peek reader holds.reads
  refine ⟨({ start := token.start }, token), next, ?_, ⟨_, rfl⟩, same, held⟩
  simp only [properties, Bind.bind, StateT.bind, peeked, Except.bind, same]
  cases kind with
  | scalar | blockMappingStart => rfl
  | _ => cases opens

/-! ## Nodes -/

/-- A node is read as its content is. -/
theorem ensures_node {block indentless : Bool} {bound : Nat} {after : Node → TokenReader → Prop}
    (opens : kind.opensNode = true)
    (rest : ∀ start token, token.kind = kind →
      Ensures (Holds · kind kinds) (content block indentless { start } token bound) after) :
    Ensures (Reads · (kind :: kinds)) (node block indentless (bound + 1)) after := by
  rw [node]
  refine .bind ensures_peek fun first => .assuming fun same => ?_
  rw [same]
  have read : Ensures (Holds · kind kinds) (properties >>= fun found =>
      content block indentless found.1 found.2 bound) after := by
    refine .bind (ensures_properties opens) fun found => ?_
    rintro reader ⟨⟨start, bare⟩, sameKind, holds⟩
    rw [bare]
    exact rest start found.2 sameKind reader holds
  cases kind with
  | scalar | blockMappingStart => exact read
  | _ => cases opens

/-- A word is read as a scalar. -/
theorem ensures_scalar (word : List Char) (block indentless : Bool) (bound : Nat) :
    Ensures (Reads · (.scalar word .plain :: kinds)) (node block indentless (bound + 2))
      fun found reader => found.Spells word ∧ reader.Reads kinds := by
  refine ensures_node rfl fun start token same => ?_
  rw [content, same]
  refine .bind ensures_takeRemarks fun remarks => .assuming ?_
  rintro rfl
  refine .bind ensures_advance fun _ => ?_
  exact fun reader reads => ⟨_, reader, rfl, ⟨_, rfl⟩, reads⟩

/-- A key or a value that is there is read as a node. -/
theorem ensures_blockPart {line bound : Nat} {after : Node → TokenReader → Prop}
    (opens : kind.opensNode = true)
    (read : Ensures (Reads · (kind :: kinds)) (node true true bound) after) :
    Ensures (Reads · (kind :: kinds)) (blockPart line (bound + 1)) after := by
  rw [blockPart]
  refine .bind ensures_peek fun next => .assuming fun same => ?_
  have other : (decide (kind = .key) || decide (kind = .value) || decide (kind = .blockEnd)) =
      false := by
    cases kind with
    | scalar | blockMappingStart => rfl
    | _ => cases opens
  rw [same, other, if_neg Bool.false_ne_true]
  exact fun reader holds => read reader holds.reads

/-- Whether tokens are read as a key or a value that shows what it should, from a least
bound on. -/
def IsPart (tokens : List TokenKind) (least : Nat) (Shows : Node → Prop) : Prop :=
  ∀ kinds line bound, least ≤ bound →
    Ensures (Reads · (tokens ++ kinds)) (blockPart line bound) fun found reader =>
      (Shows found ∧ found.foot = []) ∧ reader.Reads kinds

/-- A larger bound is enough as well. -/
theorem IsPart.mono {tokens : List TokenKind} {least more : Nat} {Shows : Node → Prop}
    (isPart : IsPart tokens least Shows) (larger : least ≤ more) : IsPart tokens more Shows :=
  fun kinds line bound enough => isPart kinds line bound (Nat.le_trans larger enough)

/-- The least bound for a word. -/
def wordBound : Nat := 3

/-- A word is a part. -/
theorem isPart_word (word : List Char) :
    IsPart [.scalar word .plain] wordBound (Node.Spells word) := by
  intro kinds line bound enough
  obtain ⟨fewer, rfl⟩ := Nat.exists_eq_add_of_le' enough
  refine ensures_blockPart rfl ((ensures_scalar word true true fewer).mono ?_)
  rintro found reader ⟨⟨line, rfl⟩, reads⟩
  exact ⟨⟨⟨line, rfl⟩, rfl⟩, reads⟩

/-! ## Mappings -/

/-- Without comments on the lines after them, a key and its value are an entry as they
are. -/
theorem addEntry_plain {entries : List (Node × Node)} {key value : Node} (keyFoot : key.foot = [])
    (valueFoot : value.foot = []) :
    addEntry false entries key value = (key, value) :: entries := by
  cases entries <;> simp [addEntry, keyFoot, valueFoot]

/-- Without comments a mapping has its entries in order. -/
theorem finishMapping_plain {info : NodeInfo} {entries : List (Node × Node)}
    (unremarked : info.remarks = {}) :
    finishMapping info false entries {} = .mapping info false entries.reverse := by
  obtain ⟨line, tag, tagged, anchor, remarks⟩ := info
  cases unremarked
  cases entries <;> rfl

end Compose

section

variable {β : Type}

/-- The tokens of an entry whose key is a word. -/
def entryTokens (tokensOf : β → List TokenKind) (item : List Char × β) : List TokenKind :=
  .key :: .scalar item.1 .plain :: .value :: tokensOf item.2

/-- The tokens of a mapping. -/
def mappingTokens (tokensOf : β → List TokenKind) (items : List (List Char × β)) :
    List TokenKind :=
  .blockMappingStart :: (items.flatMap (entryTokens tokensOf) ++ [.blockEnd])

/-- Whether an entry of a mapping has a word as its key and shows an item as its value. -/
def Node.Enters (Shows : β → Node → Prop) (item : List Char × β) (entry : Node × Node) : Prop :=
  entry.1.Spells item.1 ∧ Shows item.2 entry.2

/-- Whether the node is a mapping that shows items in their order. -/
def Node.Lists (Shows : β → Node → Prop) (items : List (List Char × β)) (node : Node) : Prop :=
  ∃ line entries, node = .mapping { line, tag := .map } false entries ∧
    List.Forall₂ (Node.Enters Shows) items entries

namespace Compose

open TokenReader

variable {kinds : List TokenKind} {tokensOf : β → List TokenKind} {Shows : β → Node → Prop}
  {least bound : Nat} {items : List (List Char × β)}

/-- The entries of a mapping are read one after the other, behind those that are read
already.

The induction is on the items. The bound goes down by one with each of them and is the
same for both parts of an entry. -/
theorem ensures_blockEntries {info : NodeInfo} (unremarked : info.remarks = {})
    (words : wordBound ≤ least)
    (parts : ∀ item ∈ items, IsPart (tokensOf item.2) least (Shows item.2))
    (entries : List (Node × Node)) (enough : items.length + least ≤ bound) :
    Ensures (Reads · (items.flatMap (entryTokens tokensOf) ++ .blockEnd :: kinds))
      (blockEntries info entries bound) fun found reader =>
        (∃ read, found = .mapping info false (entries.reverse ++ read) ∧
          List.Forall₂ (Node.Enters Shows) items read) ∧ reader.Reads kinds := by
  induction items generalizing entries bound with
  | nil =>
    obtain ⟨fewer, rfl⟩ : ∃ fewer, bound = fewer + 1 := by
      simp only [wordBound, List.length_nil] at words enough
      exact ⟨bound - 1, by omega⟩
    rw [blockEntries]
    refine .bind ensures_peek fun token => .assuming fun same => ?_
    rw [same]
    refine .bind ensures_takeRemarks fun remarks => .assuming ?_
    rintro rfl
    refine .bind ensures_advance fun _ => ?_
    rw [finishMapping_plain unremarked]
    exact fun reader reads => ⟨_, reader, rfl, ⟨[], by simp, .nil⟩, reads⟩
  | cons item items inductionHypothesis =>
    obtain ⟨first, others⟩ := List.forall_mem_cons.mp parts
    rw [List.length_cons] at enough
    obtain ⟨fewer, rfl⟩ : ∃ fewer, bound = fewer + 1 := ⟨bound - 1, by omega⟩
    rw [blockEntries, List.flatMap_cons, List.append_assoc, entryTokens]
    refine .bind ensures_peek fun token => .assuming fun same => ?_
    rw [same]
    refine .bind ensures_advance fun _ => ?_
    refine .bind (isPart_word item.1 _ _ fewer (by omega)) fun key =>
      .assuming fun ⟨spells, keyFoot⟩ => ?_
    refine .bind ensures_peek fun next => .assuming fun sign => ?_
    rw [sign, if_pos rfl]
    refine .bind ensures_advance fun _ => ?_
    refine .bind (first _ _ fewer (by omega)) fun value => .assuming fun ⟨shows, valueFoot⟩ => ?_
    rw [addEntry_plain keyFoot valueFoot]
    refine (inductionHypothesis others _ (by omega)).mono ?_
    rintro found reader ⟨⟨read, rfl, all⟩, reads⟩
    exact ⟨⟨(key, value) :: read, by simp, .cons ⟨spells, shows⟩ all⟩, reads⟩

/-- A mapping is read as a node. -/
theorem ensures_mapping (words : wordBound ≤ least)
    (parts : ∀ item ∈ items, IsPart (tokensOf item.2) least (Shows item.2))
    (enough : items.length + least + 2 ≤ bound) (indentless : Bool) :
    Ensures (Reads · (mappingTokens tokensOf items ++ kinds)) (node true indentless bound)
      fun found reader => found.Lists Shows items ∧ reader.Reads kinds := by
  obtain ⟨fewer, rfl⟩ : ∃ fewer, bound = fewer + 2 := ⟨bound - 2, by omega⟩
  rw [mappingTokens, List.cons_append, List.append_assoc]
  refine ensures_node rfl fun start token same => ?_
  rw [content, same]
  simp only [reduceCtorEq, decide_false, Bool.and_false, Bool.false_eq_true, if_false, decide_true,
    Bool.and_self, if_true]
  refine .bind ensures_takeStem fun stem => .assuming ?_
  rintro rfl
  refine .bind (ensures_openAnchor _) fun number => ?_
  refine .bind ensures_advance fun _ => ?_
  refine .bind (ensures_blockEntries rfl words parts [] (by omega)) fun found => ?_
  rintro reader ⟨⟨read, rfl, all⟩, reads⟩
  exact ⟨_, reader, rfl, ⟨_, read, rfl, all⟩, reads⟩

/-- A mapping is a part. -/
theorem isPart_mapping (words : wordBound ≤ least)
    (parts : ∀ item ∈ items, IsPart (tokensOf item.2) least (Shows item.2)) :
    IsPart (mappingTokens tokensOf items) (items.length + least + 3) (Node.Lists Shows items) := by
  intro kinds line bound enough
  obtain ⟨fewer, rfl⟩ : ∃ fewer, bound = fewer + 1 := ⟨bound - 1, by omega⟩
  refine ensures_blockPart rfl ((ensures_mapping words parts (by omega) true).mono ?_)
  rintro found reader ⟨⟨line, entries, rfl, all⟩, reads⟩
  exact ⟨⟨⟨line, entries, rfl, all⟩, rfl⟩, reads⟩

end Compose

end

/-! ## Documents -/

namespace Compose

open TokenReader

variable {kind : TokenKind} {kinds : List TokenKind} {bound : Nat}

/-- No directive stands before a node. -/
theorem ensures_directives (opens : kind.opensNode = true) (enough : 0 < bound) :
    Ensures (Holds · kind kinds) (directives bound false []) fun _ reader =>
      reader.Reads (kind :: kinds) := by
  obtain ⟨fewer, rfl⟩ := Nat.exists_eq_succ_of_ne_zero (Nat.ne_of_gt enough)
  rw [directives]
  intro reader holds
  obtain ⟨token, next, peeked, same, held⟩ := ensures_peek reader holds.reads
  refine ⟨(), { next with handles := standardHandles }, ?_, held.reads.serves, held.reads.quiet,
    held.reads.stemless⟩
  simp only [Bind.bind, StateT.bind, peeked, Except.bind, same]
  cases kind with
  | scalar | blockMappingStart => rfl
  | _ => cases opens

/-- A document that is a node and nothing else is read as this node. -/
theorem ensures_document {Shows : Node → Prop} (opens : kind.opensNode = true) (enough : 0 < bound)
    (read : Ensures (Reads · (kind :: kinds)) (node true false bound) fun root reader =>
      Shows root ∧ reader.Reads [.streamEnd]) :
    Ensures (Reads · (kind :: kinds)) (document bound) fun root? _ =>
      ∃ root, root? = some root ∧ Shows root := by
  rw [document]
  refine .bind ensures_peek fun first => .assuming fun same => ?_
  rw [same]
  have unmarked : Ensures (Holds · kind kinds) (do
      directives bound false []
      let root ← node true false bound
      let _ ← peek
      return some root) fun root? _ => ∃ root, root? = some root ∧ Shows root := by
    refine .bind (ensures_directives opens enough) fun _ => ?_
    refine .bind read fun root => .assuming fun shows => ?_
    refine .bind ensures_peek fun last => ?_
    exact fun reader _ => ⟨_, reader, rfl, root, rfl, shows⟩
  cases kind with
  | scalar | blockMappingStart => exact unmarked
  | _ => cases opens

end Compose

/-! ## Sections -/

/-- A section of an outline: its name, and the names and words of its fields. -/
abbrev Section := List Char × List (List Char × List Char)

/-- The column of the fields of a section. -/
def fieldColumn : Nat := 2

/-- The line of a field. -/
def fieldLine (field : List Char × List Char) : Line :=
  { column := fieldColumn, key := field.1, value := some field.2 }

/-- The lines of a section. -/
def sectionLines (part : Section) : List Line :=
  { column := 0, key := part.1 } :: part.2.map fieldLine

/-- The tokens of a section's fields. -/
def fieldTokens (fields : List (List Char × List Char)) : List TokenKind :=
  mappingTokens (fun word => [.scalar word .plain]) fields

/-- Whether a section can be written. -/
structure Section.Fits (part : Section) : Prop where
  isName : IsWord part.1
  short : part.1.length ≤ Scan.keySpan
  filled : part.2 ≠ []
  fields : ∀ field ∈ part.2, IsWord field.1 ∧ field.1.length ≤ Scan.keySpan ∧ IsWord field.2

/-- Fields in the middle of a section give a key and a value each. -/
theorem outlineTokens_fields (fields : List (List Char × List Char)) (later : List Line) :
    outlineTokens [fieldColumn, 0] (fields.map fieldLine ++ later) =
      fields.flatMap (entryTokens fun word => [.scalar word .plain]) ++
        outlineTokens [fieldColumn, 0] later := by
  induction fields with
  | nil => rfl
  | cons field fields inductionHypothesis =>
    rw [List.map_cons, List.cons_append, outlineTokens, List.flatMap_cons, List.append_assoc,
      ← inductionHypothesis]
    rfl

/-- A section ends before the next one and at the end. -/
theorem outlineTokens_leave (sections : List Section) :
    outlineTokens [fieldColumn, 0] (sections.flatMap sectionLines) =
      .blockEnd :: outlineTokens [0] (sections.flatMap sectionLines) := by
  cases sections <;> rfl

/-- Sections inside of the outermost mapping give a key and a mapping each. -/
theorem outlineTokens_sections (sections : List Section)
    (filled : ∀ part ∈ sections, part.2 ≠ []) :
    outlineTokens [0] (sections.flatMap sectionLines) =
      sections.flatMap (entryTokens fieldTokens) ++ [.blockEnd, .streamEnd] := by
  induction sections with
  | nil => rfl
  | cons part sections inductionHypothesis =>
    obtain ⟨first, others⟩ := List.forall_mem_cons.mp filled
    obtain ⟨name, fields⟩ := part
    obtain ⟨field, fields, rfl⟩ := List.exists_cons_of_ne_nil first
    calc
      outlineTokens [0] (List.flatMap sectionLines ((name, field :: fields) :: sections)) =
          .key :: .scalar name .plain :: .value :: .blockMappingStart ::
            (entryTokens (fun word => [.scalar word .plain]) field ++
              outlineTokens [fieldColumn, 0]
                (fields.map fieldLine ++ sections.flatMap sectionLines)) := rfl
      _ = .key :: .scalar name .plain :: .value :: .blockMappingStart ::
            (entryTokens (fun word => [.scalar word .plain]) field ++
              (fields.flatMap (entryTokens fun word => [.scalar word .plain]) ++
                .blockEnd :: (sections.flatMap (entryTokens fieldTokens) ++
                  [.blockEnd, .streamEnd]))) := by
        rw [outlineTokens_fields, outlineTokens_leave, inductionHypothesis others]
      _ = List.flatMap (entryTokens fieldTokens) ((name, field :: fields) :: sections) ++
            [.blockEnd, .streamEnd] := by
        simp [entryTokens, fieldTokens, mappingTokens]

/-- The tokens of sections are those of one mapping. -/
theorem outlineTokens_document {sections : List Section} (nonempty : sections ≠ [])
    (filled : ∀ part ∈ sections, part.2 ≠ []) :
    outlineTokens [] (sections.flatMap sectionLines) =
      mappingTokens fieldTokens sections ++ [.streamEnd] := by
  have entered : outlineTokens [] (sections.flatMap sectionLines) =
      .blockMappingStart :: outlineTokens [0] (sections.flatMap sectionLines) := by
    obtain ⟨part, others, rfl⟩ := List.exists_cons_of_ne_nil nonempty
    rfl
  rw [entered, outlineTokens_sections sections filled, mappingTokens, List.cons_append,
    List.append_assoc]
  rfl

/-- Fields are well made before lines that are not indented more. -/
theorem isOutline_fields {fields : List (List Char × List Char)} {later : List Line}
    (fit : ∀ field ∈ fields, IsWord field.1 ∧ field.1.length ≤ Scan.keySpan ∧ IsWord field.2)
    (below : ∀ next ∈ later.head?, next.column ≤ fieldColumn) (wellMade : IsOutline later) :
    IsOutline (fields.map fieldLine ++ later) := by
  induction fields with
  | nil => exact wellMade
  | cons field fields inductionHypothesis =>
    obtain ⟨⟨isKey, short, isValue⟩, others⟩ := List.forall_mem_cons.mp fit
    refine ⟨⟨isKey, short, nofun, fun word same => ?_⟩, inductionHypothesis others⟩
    cases same
    refine ⟨isValue, ?_⟩
    cases fields with
    | nil => exact below
    | cons next fields =>
      rintro line ⟨⟩
      exact Nat.le_refl fieldColumn

/-- Sections are an outline. -/
theorem isOutline_sections {sections : List Section} (fit : ∀ part ∈ sections, Section.Fits part) :
    IsOutline (sections.flatMap sectionLines) := by
  induction sections with
  | nil => trivial
  | cons part sections inductionHypothesis =>
    obtain ⟨first, others⟩ := List.forall_mem_cons.mp fit
    have below : ∀ next ∈ (sections.flatMap sectionLines).head?, next.column ≤ fieldColumn := by
      cases sections with
      | nil => nofun
      | cons next sections =>
        rintro line ⟨⟩
        exact Nat.zero_le fieldColumn
    refine ⟨⟨first.isName, first.short, fun _ => ?_, nofun⟩,
      isOutline_fields first.fields below (inductionHypothesis others)⟩
    simp [first.filled]

/-- An outline has at most as many lines as characters. -/
theorem length_le_outlineText (lines : List Line) : lines.length ≤ (outlineText lines).length := by
  induction lines with
  | nil => exact Nat.le_refl 0
  | cons line later inductionHypothesis =>
    simp only [outlineText, List.length_append, List.length_cons]
    omega

/-- There are at most as many sections, and as many fields in each, as lines. -/
theorem length_le_sectionLines (sections : List Section) :
    sections.length ≤ (sections.flatMap sectionLines).length ∧
      ∀ part ∈ sections, part.2.length ≤ (sections.flatMap sectionLines).length := by
  induction sections with
  | nil => exact ⟨Nat.le_refl 0, nofun⟩
  | cons part sections inductionHypothesis =>
    obtain ⟨sectionsFit, fieldsFit⟩ := inductionHypothesis
    simp only [List.flatMap_cons, sectionLines, List.length_append, List.length_cons,
      List.length_map, List.forall_mem_cons]
    refine ⟨by omega, by omega, fun other member => ?_⟩
    have fits := fieldsFit other member
    omega

/-- A source gives the tree of its document. -/
theorem Tree.ofSource_of_document {source : Source} {root : Node} {reader : TokenReader}
    (composed : Compose.document (composeBound source.chars.length)
      { scan := Scan.ofSource source } = .ok (some root, reader)) :
    Tree.ofSource source =
      .ok (some
        { root, anchored := reader.anchored, size := composeBound source.chars.length }) := by
  unfold Tree.ofSource StateT.run
  lift_lets
  intro bound
  rw [composed]

/-- The fields of a section are a part of the outermost mapping. -/
theorem isPart_fields (fields : List (List Char × List Char)) :
    Compose.IsPart (fieldTokens fields) (fields.length + Compose.wordBound + 3)
      (Node.Lists Node.Spells fields) :=
  @Compose.isPart_mapping _ (fun word => [.scalar word .plain]) _ _ _
    (Nat.le_refl Compose.wordBound) fun field _ => Compose.isPart_word field.2

/-- **The text of sections is read as a mapping** of their names to mappings of words to
words. -/
theorem Tree.ofSource_sections {sections : List Section} (nonempty : sections ≠ [])
    (fit : ∀ part ∈ sections, Section.Fits part)
    (short : (sections.flatMap sectionLines).length < Scan.deepest) :
    ∃ tree, Tree.ofSource ⟨[outlineText (sections.flatMap sectionLines)], true⟩ = .ok (some tree) ∧
      tree.root.Lists (Node.Lists Node.Spells) sections := by
  have serves : (Scan.ofSource ⟨[outlineText (sections.flatMap sectionLines)], true⟩).Serves
      (mappingTokens fieldTokens sections ++ [.streamEnd]) := by
    rw [← outlineTokens_document nonempty fun part member => (fit part member).filled]
    obtain ⟨part, others, rfl⟩ := List.exists_cons_of_ne_nil nonempty
    exact Scan.serves_ofSource (isOutline_sections fit) nofun rfl short
  obtain ⟨sectionsFit, fieldsFit⟩ := length_le_sectionLines sections
  have linesFit : (sections.flatMap sectionLines).length ≤
      (Source.chars ⟨[outlineText (sections.flatMap sectionLines)], true⟩).length := by
    simpa [Source.chars] using length_le_outlineText (sections.flatMap sectionLines)
  generalize Source.mk [outlineText (sections.flatMap sectionLines)] true = source
    at serves linesFit ⊢
  generalize (sections.flatMap sectionLines).length = count at linesFit sectionsFit fieldsFit
  have parts : ∀ part ∈ sections, Compose.IsPart (fieldTokens part.2)
      (count + Compose.wordBound + 3) (Node.Lists Node.Spells part.2) := by
    intro part member
    refine (isPart_fields part.2).mono ?_
    have fits := fieldsFit part member
    omega
  have enough : sections.length + (count + Compose.wordBound + 3) + 2 ≤
      composeBound source.chars.length := by
    simp only [composeBound, Compose.wordBound]
    omega
  have mapping : Ensures (·.Reads (mappingTokens fieldTokens sections ++ [.streamEnd]))
      (Compose.node true false (composeBound source.chars.length)) fun root reader =>
        root.Lists (Node.Lists Node.Spells) sections ∧ reader.Reads [.streamEnd] :=
    Compose.ensures_mapping (by omega) parts enough false
  obtain ⟨root?, reader, composed, root, rfl, lists⟩ :=
    Compose.ensures_document rfl (Nat.lt_of_lt_of_le (Nat.succ_pos _) enough) mapping
      { scan := Scan.ofSource source } ⟨serves, rfl, rfl⟩
  exact ⟨_, Tree.ofSource_of_document composed, lists⟩

end ContainerKernel.Document
