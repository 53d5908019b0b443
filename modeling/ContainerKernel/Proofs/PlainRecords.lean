import ContainerKernel.Document.Record
import ContainerKernel.Proofs.OutlineNodes
import ContainerKernel.Proofs.PlainWords

/-!
# Records from outlines

A reading that meets nothing it could object to goes on calmly: there are no problems
and no aliases. What it gives then does not depend on how many nodes were visited, so
that each function has a law of the form `Gives`: begun calmly, it ends calmly, with
one value.

The nodes are those of an outline. Names are read as texts and numbers as words. Where
each item of a mapping is taken by a field of the record, and no name stands twice, the
record is changed by the fields one after the other. Merged mappings, aliases, nulls
and collections in place of scalars are not treated.
-/

namespace ContainerKernel.Document

/-- Whether a reading has met neither a problem nor an alias. -/
structure ReadProgress.Calm (progress : ReadProgress) : Prop where
  problemless : progress.problems = []
  unaliased : progress.aliasVisits = 0
  unfollowed : progress.followed = []

namespace Decode

/-- Whether a reading that is calm gives a value and stays calm. -/
def Gives {α : Type} (action : Decode α) (value : α) : Prop :=
  Ensures ReadProgress.Calm action fun found progress => found = value ∧ progress.Calm

variable {α β σ : Type} {tree : Tree} {node : Node} {word : List Char}

/-- A value that is there already is given. -/
theorem gives_pure (value : α) : Gives (pure value) value :=
  fun progress calm => ⟨value, progress, rfl, rfl, calm⟩

/-- Two readings one after the other give what the second gives for the value of the
first. -/
theorem Gives.bind {action : Decode α} {next : α → Decode β} {value : α} {result : β}
    (first : Gives action value) (rest : Gives (next value) result) :
    Gives (action >>= next) result := by
  refine Ensures.bind first fun found => .assuming ?_
  rintro rfl
  exact rest

/-! ## Visits and scalars -/

/-- Without aliases there are never too many visits. -/
theorem gives_countVisit : Gives countVisit () := by
  intro progress calm
  have few : excessive (progress.visits + 1) 0 = false := by
    simp [excessive]
  refine ⟨(), { progress with visits := progress.visits + 1, aliasVisits := 0 }, ?_, rfl,
    calm.problemless, rfl, calm.unfollowed⟩
  simp only [countVisit, Bind.bind, StateT.bind, get, getThe, MonadStateOf.get, StateT.get,
    Except.bind, Pure.pure, Except.pure, calm.unaliased, calm.unfollowed, List.isEmpty_nil,
    if_true, Nat.zero_add, few]
  rfl

/-- A node that is no alias is read itself. -/
theorem gives_visit {read : Node → Decode α} {value : α} (gives : Gives (read node) value)
    (direct : ∀ info name index target, node ≠ .reference info name index target) :
    Gives (visit tree node read) value := by
  refine gives_countVisit.bind ?_
  cases node with
  | reference info name index target => exact absurd rfl (direct info name index target)
  | scalar | sequence | mapping => exact gives

/-- A scalar that looks like its tag has a meaning. -/
theorem gives_meaningOf {info : NodeInfo} {meaning : Meaning} (unencoded : info.tag ≠ .binary)
    (meant : Meaning.ofTagged? info.tag word = some meaning) :
    Gives (meaningOf info word) (meaning, encodeChars word) := by
  rw [meaningOf, if_neg unencoded, meant]
  exact gives_pure _

/-- A scalar that is not null and fits gives what fits. -/
theorem gives_scalar {wanted : String} {fit : Meaning → Bytes → Option α} {info : NodeInfo}
    {style : ScalarStyle} {meaning : Meaning} {bytes : Bytes} {value : α}
    (meant : Gives (meaningOf info word) (meaning, bytes)) (present : meaning ≠ .null)
    (fits : fit meaning bytes = some value) :
    Gives (scalar wanted fit tree (.scalar info style word)) (some value) := by
  refine gives_visit ?_ nofun
  refine meant.bind ?_
  simp only [if_neg present, fits]
  exact gives_pure _

/-- A word has the tag of what it means; it does not merge anything. -/
theorem usualScalarTag_word (isWord : IsWord word) :
    Compose.usualScalarTag .plain word = (Meaning.ofText true word).tag := by
  have unmerged : word ≠ ['<', '<'] := by
    rintro rfl
    exact absurd (isWord.plain '<' List.mem_cons_self) (by decide)
  rw [Compose.usualScalarTag, if_pos rfl, if_neg unmerged]

/-- A name is read as a text. -/
theorem gives_text (isName : IsName word) (spells : node.Spells word) :
    Gives (text tree node) (some (encodeChars word)) := by
  obtain ⟨line, rfl⟩ := spells
  rw [usualScalarTag_word isName.isWord, isName.meaning true]
  have meant : Gives (meaningOf { line, tag := .str } word) (.text, encodeChars word) :=
    gives_meaningOf nofun rfl
  unfold text namedText
  exact gives_scalar meant nofun rfl

/-- A written number is read as the number. -/
theorem gives_word {number : Int} {wanted : String} (holds : Word.holds number = true)
    (spells : node.Spells (Settings.numberValue number)) :
    Gives (Decode.word wanted tree node) (some number) := by
  obtain ⟨line, rfl⟩ := spells
  rw [usualScalarTag_word (isWord_numberValue number), ofText_numberValue holds]
  have meant : Meaning.ofTagged? .int (Settings.numberValue number) = some (.integer number) := by
    simp [Meaning.ofTagged?, ofText_numberValue holds, Meaning.tag]
  exact gives_scalar (gives_meaningOf nofun meant) nofun (if_pos holds)

/-- A word gives the same where a place may go without. -/
theorem gives_optional {wanted : String} {read : Tree → Node → Decode (Option α)}
    {value : Option α} (spells : node.Spells word) (gives : Gives (read tree node) value) :
    Gives (optional wanted read tree node) value := by
  obtain ⟨line, rfl⟩ := spells
  exact gives

/-! ## Records -/

/-- Whether one of the fields takes an item of a mapping: from every node that shows the
item it changes the record in the given way. -/
structure Takes (tree : Tree) (fields : List (RecordField σ)) (Shows : β → Node → Prop)
    (item : List Char × β) (change : σ → σ) : Prop where
  isName : IsName item.1
  sets : ∃ field, fields.find? (·.name = encodeChars item.1) = some field ∧
    ∀ node, Shows item.2 node → ∀ record, Gives (field.set tree node record) (change record)

variable {fields : List (RecordField σ)} {Shows : β → Node → Prop} {items : List (List Char × β)}
  {entries : List (Node × Node)} {changes : List (σ → σ)}

/-- A name does not merge its value. -/
theorem isMerge_of_spells (isName : IsName word) (spells : node.Spells word) :
    isMerge node = false := by
  obtain ⟨line, rfl⟩ := spells
  simp [isMerge, usualScalarTag_word isName.isWord, isName.meaning true, Meaning.tag]

/-- The entries of a mapping change the record one after the other.

The induction is on the items and their changes together. It needs that the names to
come are none of those that are done, which no name standing twice keeps up. -/
theorem gives_ownEntries {typeName : String}
    (taken : List.Forall₂ (Takes tree fields Shows) items changes)
    (all : List.Forall₂ (Node.Enters Shows) items entries) (distinct : (items.map (·.1)).Nodup)
    {done : List Bytes} (fresh : ∀ item ∈ items, encodeChars item.1 ∉ done) (record : σ) :
    Gives (ownEntries typeName fields tree entries done { record })
      { record := changes.foldl (fun record change => change record) record } := by
  induction taken generalizing entries done record with
  | nil =>
    cases all
    exact gives_pure _
  | @cons item change items changes first rest inductionHypothesis =>
    cases all with
    | @cons _ entry _ entries enters others =>
      obtain ⟨key, value⟩ := entry
      obtain ⟨spells, shows⟩ := enters
      obtain ⟨field, found, sets⟩ := first.sets
      obtain ⟨freshFirst, freshRest⟩ := List.forall_mem_cons.mp fresh
      rw [List.map_cons, List.nodup_cons] at distinct
      have later : ∀ other ∈ items, encodeChars other.1 ∉ encodeChars item.1 :: done := by
        intro other member
        rw [List.mem_cons, not_or]
        refine ⟨fun same => distinct.1 ?_, freshRest other member⟩
        rw [← encodeChars_injective same]
        exact List.mem_map_of_mem member
      have new : done.contains (encodeChars item.1) = false := by simpa using freshFirst
      rw [ownEntries, isMerge_of_spells first.isName spells]
      refine (gives_text first.isName spells).bind ?_
      simp only [Option.getD_none, List.any_nil, Bool.false_eq_true, if_false, Option.map_none,
        found, new]
      refine (sets value shows record).bind ?_
      exact inductionHypothesis others distinct.2 later (change record)

/-- The names of the items are the texts of the keys. -/
theorem keys_of_enters (all : List.Forall₂ (Node.Enters Shows) items entries) :
    entries.map (fun entry => textOf entry.1) = items.map (·.1) := by
  induction all with
  | nil => rfl
  | cons enters others inductionHypothesis =>
    obtain ⟨line, same⟩ := enters.1
    rw [List.map_cons, List.map_cons, inductionHypothesis, same]
    rfl

/-- Keys with different texts are not repeated. -/
theorem repeatedKeys_of_nodup (distinct : (entries.map fun entry => textOf entry.1).Nodup) :
    repeatedKeys entries = [] := by
  induction entries with
  | nil => rfl
  | cons entry entries inductionHypothesis =>
    rw [List.map_cons, List.nodup_cons] at distinct
    obtain ⟨key, value⟩ := entry
    rw [repeatedKeys, inductionHypothesis distinct.2, List.append_nil, List.filterMap_eq_nil_iff]
    intro later member
    have other : textOf key ≠ textOf later.1 := fun same =>
      distinct.1 (List.mem_map.mpr ⟨later, member, same.symm⟩)
    simp [other]

/-- Names merge nothing. -/
theorem merged?_of_names (all : List.Forall₂ (Node.Enters Shows) items entries)
    (names : ∀ item ∈ items, IsName item.1) : merged? entries = none := by
  have unmerged : ∀ entry ∈ entries, isMerge entry.1 = false := by
    induction all with
    | nil => nofun
    | cons enters others inductionHypothesis =>
      obtain ⟨first, rest⟩ := List.forall_mem_cons.mp names
      exact List.forall_mem_cons.mpr ⟨isMerge_of_spells first enters.1, inductionHypothesis rest⟩
  rw [merged?, Option.map_eq_none_iff, List.find?_eq_none]
  intro entry member
  simp [unmerged entry (List.mem_reverse.mp member)]

/-- **A record is read from a mapping** as the changes that its items make to the start. -/
theorem gives_record {typeName : String}
    (taken : List.Forall₂ (Takes tree fields Shows) items changes)
    (distinct : (items.map (·.1)).Nodup) (lists : node.Lists Shows items) (start : σ) :
    Gives (record typeName fields start tree node)
      (some (changes.foldl (fun record change => change record) start)) := by
  obtain ⟨line, entries, rfl, all⟩ := lists
  have names : ∀ item ∈ items, IsName item.1 := by
    clear distinct all
    induction taken with
    | nil => nofun
    | cons first _ inductionHypothesis =>
      exact List.forall_mem_cons.mpr ⟨first.isName, inductionHypothesis⟩
  have layers : Gives
      (mappingLayers typeName fields tree (tree.size + 1) entries { record := start })
      (true, { record := changes.foldl (fun record change => change record) start }) := by
    rw [mappingLayers, repeatedKeys_of_nodup (keys_of_enters all ▸ distinct)]
    refine (gives_ownEntries taken all distinct (fun _ _ => List.not_mem_nil) start).bind ?_
    rw [merged?_of_names all names]
    exact gives_pure _
  refine gives_visit ?_ nofun
  exact layers.bind (gives_pure _)

/-- A field is taken by its name. -/
theorem gives_field {name : String} {read : Tree → Node → Decode (Option α)} {put : α → σ → σ}
    {value : α} (gives : Gives (read tree node) (some value)) (record : σ) :
    Gives ((field name read put).set tree node record) (put value record) :=
  gives.bind (gives_pure _)

/-- A field that is a record of its own takes what that record does. -/
theorem gives_part {name typeName : String} {start read : σ}
    (gives : Gives (record typeName fields start tree node) (some read)) :
    Gives ((part name typeName fields).set tree node start) read :=
  gives.bind (gives_pure _)

/-- What is read calmly from the root of a document is what the document gives. -/
theorem ofBytes_of_gives {read : Tree → Node → Decode (Option σ)} {start value : σ} {bytes : Bytes}
    (found : Tree.ofBytes bytes = .ok (some tree))
    (gives : Gives (read tree tree.root) (some value)) : ofBytes read start bytes = .ok value := by
  have whole : Gives (do countVisit; read tree tree.root) (some value) :=
    gives_countVisit.bind gives
  obtain ⟨result, progress, acted, rfl, calm⟩ := whole {} ⟨rfl, rfl, rfl⟩
  unfold ofBytes StateT.run
  simp [found, acted, calm.problemless]

end Decode

/-- The bytes of short sections are read as a mapping. -/
theorem Tree.ofBytes_sections {sections : List Section} (nonempty : sections ≠ [])
    (fit : ∀ part ∈ sections, Section.Fits part)
    (short : (outlineText (sections.flatMap sectionLines)).length ≤ Source.chunkSize) :
    ∃ tree, Tree.ofBytes (encodeChars (outlineText (sections.flatMap sectionLines))) =
        .ok (some tree) ∧ tree.root.Lists (Node.Lists Node.Spells) sections := by
  have plain := Scan.isOutlineChar_of_outlineText (isOutline_sections fit)
  have few : (sections.flatMap sectionLines).length < Scan.deepest := by
    have lines := length_le_outlineText (sections.flatMap sectionLines)
    simp only [Source.chunkSize, Scan.deepest] at short ⊢
    omega
  rw [Tree.ofBytes, Source.ofBytes_narrow
    (fun value member => narrow_of_isOutlineChar (plain value member))
    (fun value member => isAllowed_of_isOutlineChar (plain value member)) short]
  exact Tree.ofSource_sections nonempty fit few

end ContainerKernel.Document
