import ContainerKernel.Proofs.PlainRecords

/-!
# Settings come back from their document

Settings are written as an outline of three sections, whose words are the names of the
policies and the numbers in decimal. Read again over any base, such a document gives
every setting but the path, so that nothing else of the base is left. This holds for
all settings without an objection whose numbers are signed words.

A growth policy that has no name is written as well, but under a name that is not known
to the reader: then reading fails because of that name, and for no other reason.
-/

namespace ContainerKernel

open Document

/-! ## Names of policies -/

/-- The characters of the name of a growth policy. -/
def Growth.word : Growth → List Char
  | doubling => "doubling".toList
  | exact => "exact".toList
  | unnamed code => "growth(".toList ++ Settings.numberValue code ++ ")".toList

namespace Growth

/-- The name of a growth policy is the encoding of its word. -/
theorem name_eq (growth : Growth) : growth.name = encodeChars growth.word := by
  cases growth with
  | doubling | exact => rfl
  | unnamed code =>
    unfold word
    rw [name, utf8, utf8, decimal_eq, encodeChars_append, encodeChars_append]

/-- No word with a meaning of its own begins as the name of an unnamed policy does. -/
theorem readsAsText_unnamed (rest : List Char) : TextField.readsAsText ('g' :: rest) = true := by
  have others : ∀ known ∈ Meaning.words.map (·.1) ++ (Meaning.trueWords ++ Meaning.falseWords),
      known.head? ≠ some 'g' := by decide
  have unknown : ∀ known ∈ Meaning.words.map (·.1) ++ (Meaning.trueWords ++ Meaning.falseWords),
      'g' :: rest ≠ known := by
    rintro known member rfl
    exact others _ member rfl
  rw [List.forall_mem_append] at unknown
  have looked : Meaning.words.lookup ('g' :: rest) = none :=
    List.lookup_eq_none_iff.mpr fun word member =>
      bne_iff_ne.mpr (unknown.1 word.1 (List.mem_map_of_mem member))
  have meant : Meaning.ofText true ('g' :: rest) = .text := by
    unfold Meaning.ofText
    rw [looked]
    rfl
  have uncounted : TextField.isBaseSixty ('g' :: rest) = false := rfl
  have untrue : (Meaning.trueWords ++ Meaning.falseWords).contains ('g' :: rest) = false := by
    simpa using fun member => unknown.2 _ member rfl
  rw [TextField.readsAsText, meant, uncounted, untrue]
  rfl

/-- Every growth policy has a name that means nothing else. -/
theorem isName_word (growth : Growth) : IsName growth.word := by
  cases growth with
  | doubling | exact => exact isName_of_check (by decide)
  | unnamed code =>
    refine ⟨⟨?_, nofun, nofun⟩, readsAsText_unnamed _⟩
    have signs := List.all_eq_true.mp
      (show ("growth(".toList ++ ")".toList).all isWordChar = true by decide)
    rw [List.forall_mem_append] at signs
    unfold word
    simp only [List.forall_mem_append]
    exact ⟨⟨signs.1, (isWord_numberValue code).plain⟩, signs.2⟩

/-- The word of a growth policy is short. -/
theorem length_word {growth : Growth} (holds : Word.holds growth.code = true) :
    growth.word.length ≤ 28 := by
  cases growth with
  | doubling | exact => decide
  | unnamed code =>
    have digits : (Settings.numberValue code).length ≤ 20 := length_numberValue holds
    have signs : "growth(".toList.length = 7 ∧ ")".toList.length = 1 := by decide
    unfold word
    simp only [List.length_append]
    omega

/-- Only the two policies with names of their own are found by name. -/
theorem ofName?_word (growth : Growth) :
    ofName? (encodeChars growth.word) =
      if growth = .doubling ∨ growth = .exact then some growth else none := by
  cases growth with
  | doubling | exact => decide
  | unnamed code =>
    have other {word : List Char} (begins : word.head? ≠ some 'g') :
        encodeChars (unnamed code).word ≠ encodeChars word := by
      intro same
      rw [← encodeChars_injective same] at begins
      exact begins rfl
    have empty : encodeChars (unnamed code).word ≠ [] := @other [] nofun
    have doubling : encodeChars (unnamed code).word ≠ utf8 "doubling" := other (by decide)
    have exact : encodeChars (unnamed code).word ≠ utf8 "exact" := other (by decide)
    simp [ofName?, empty, doubling, exact]

end Growth

/-- A policy without an objection has a name by which it is found. -/
theorem Settings.policy_named {settings : Settings} (accepted : settings.objection? = none) :
    ∃ word, settings.policy.name = encodeChars word ∧ IsName word ∧ word.length ≤ 5 ∧
      Policy.ofName (encodeChars word) = settings.policy := by
  cases same : settings.policy with
  | abort => exact ⟨"abort".toList, rfl, isName_of_check (by decide), by decide, by decide⟩
  | error => exact ⟨"error".toList, rfl, isName_of_check (by decide), by decide, by decide⟩
  | unknown name =>
    rw [Settings.objection?, same] at accepted
    cases accepted

/-! ## The document -/

namespace Settings

/-- Whether the numbers of settings are signed words. -/
structure InWords (settings : Settings) : Prop where
  growth : Word.holds settings.growth.code = true
  listLimit : Word.holds settings.listLimit = true
  stringLimit : Word.holds settings.stringLimit = true
  exitCode : Word.holds settings.exitCode = true

/-- The sections of settings whose fault policy has the given name. -/
def sections (settings : Settings) (policy : List Char) : List Section :=
  [("list".toList, [("growth".toList, settings.growth.word),
      ("max_len".toList, numberValue settings.listLimit)]),
    ("string".toList, [("max_len".toList, numberValue settings.stringLimit)]),
    ("faults".toList, [("policy".toList, policy),
      ("exit_code".toList, numberValue settings.exitCode)])]

/-- The names of the fields of a settings document are short enough for keys. -/
theorem length_label : ∀ label ∈ labels, label.toList.length ≤ Scan.keySpan := by
  decide

/-- A word ends its line with a line feed. -/
theorem sectionLine_word {value : List Char} (isWord : IsWord value) (key : String) :
    sectionLine key value =
      List.replicate fieldColumn ' ' ++ (key.toList ++ ':' :: ' ' :: (value ++ ['\n'])) := by
  have unbroken : value.getLast?.any isBreak = false := by
    cases last : value.getLast? with
    | none => rfl
    | some final => exact isBreak_of_isWordChar (isWord.plain final (List.mem_of_getLast? last))
  simp [sectionLine, indentStep, fieldColumn, unbroken]

variable {settings : Settings} {policy : List Char}

/-- The document of settings is the outline of their sections. -/
theorem documentChars_eq (named : settings.policy.name = encodeChars policy)
    (isName : IsName policy) :
    settings.documentChars = outlineText ((settings.sections policy).flatMap sectionLines) := by
  have growthName := settings.growth.isName_word
  unfold documentChars sections
  rw [named, settings.growth.name_eq, growthName.textValue, isName.textValue,
    sectionLine_word growthName.isWord, sectionLine_word isName.isWord,
    sectionLine_word (isWord_numberValue settings.listLimit),
    sectionLine_word (isWord_numberValue settings.stringLimit),
    sectionLine_word (isWord_numberValue settings.exitCode)]
  generalize settings.growth.word = growth
  generalize numberValue settings.listLimit = listLimit
  generalize numberValue settings.stringLimit = stringLimit
  generalize numberValue settings.exitCode = exitCode
  simp [sectionLines, fieldLine, outlineText, Line.body, Line.behind]

/-- The document of settings is short enough to be read in one piece. -/
theorem length_sections (words : settings.InWords) (short : policy.length ≤ 5) :
    (outlineText ((settings.sections policy).flatMap sectionLines)).length ≤ Source.chunkSize := by
  have growth := Growth.length_word words.growth
  have listLimit := length_numberValue words.listLimit
  have stringLimit := length_numberValue words.stringLimit
  have exitCode := length_numberValue words.exitCode
  unfold sections
  simp [sectionLines, fieldLine, fieldColumn, outlineText, Line.body, Line.behind,
    Source.chunkSize]
  omega

/-- The sections of settings can be written. -/
theorem fits_sections (isName : IsName policy) :
    ∀ part ∈ settings.sections policy, Section.Fits part := by
  have field {label : String} {word : List Char} (member : label ∈ labels) (isWord : IsWord word) :
      IsWord label.toList ∧ label.toList.length ≤ Scan.keySpan ∧ IsWord word :=
    ⟨(isName_label member).isWord, length_label label member, isWord⟩
  have part {label : String} {fields : List (List Char × List Char)} (member : label ∈ labels)
      (filled : fields ≠ [])
      (all : ∀ field ∈ fields, IsWord field.1 ∧ field.1.length ≤ Scan.keySpan ∧ IsWord field.2) :
      Section.Fits (label.toList, fields) :=
    ⟨(isName_label member).isWord, length_label label member, filled, all⟩
  unfold sections
  simp only [List.forall_mem_cons]
  refine ⟨part (by decide) nofun ?_, part (by decide) nofun ?_, part (by decide) nofun ?_, nofun⟩
  all_goals simp only [List.forall_mem_cons]
  · exact ⟨field (by decide) settings.growth.isName_word.isWord,
      field (by decide) (isWord_numberValue _), nofun⟩
  · exact ⟨field (by decide) (isWord_numberValue _), nofun⟩
  · exact ⟨field (by decide) isName.isWord, field (by decide) (isWord_numberValue _), nofun⟩

end Settings

/-! ## The overlay -/

namespace Overlay

open Document.Decode

variable {tree : Tree} {fields : List (RecordField Overlay)} {settings : Settings}
  {policy : List Char}

/-- A field for texts takes a name. -/
theorem takes_text (label : String) (put : Bytes → Overlay → Overlay) {word : List Char}
    (isLabel : label ∈ Settings.labels) (isName : IsName word)
    (found : fields.find? (·.name = encodeChars label.toList) = some (field label text put)) :
    Takes tree fields Node.Spells (label.toList, word) (put (encodeChars word)) :=
  ⟨isName_label isLabel, _, found, fun _ spells record =>
    gives_field (gives_text isName spells) record⟩

/-- A field for words takes a number. -/
theorem takes_number (label : String) (put : Int → Overlay → Overlay) {number : Int}
    (isLabel : label ∈ Settings.labels) (holds : Word.holds number = true)
    (found : fields.find? (·.name = encodeChars label.toList) =
      some (field label (optional "int" (word "int")) put)) :
    Takes tree fields Node.Spells (label.toList, Settings.numberValue number) (put number) :=
  ⟨isName_label isLabel, _, found, fun _ spells record =>
    gives_field (gives_optional spells (gives_word holds spells)) record⟩

/-- A field for a part of the record takes a section. -/
theorem takes_part (label : String) {typeName : String} {inner : List (RecordField Overlay)}
    {items : List (List Char × List Char)} {changes : List (Overlay → Overlay)}
    (isLabel : label ∈ Settings.labels)
    (found : fields.find? (·.name = encodeChars label.toList) = some (part label typeName inner))
    (taken : List.Forall₂ (Takes tree inner Node.Spells) items changes)
    (distinct : (items.map (·.1)).Nodup) :
    Takes tree fields (Node.Lists Node.Spells) (label.toList, items)
      fun record => changes.foldl (fun record change => change record) record :=
  ⟨isName_label isLabel, _, found, fun _ lists start =>
    gives_part (gives_record taken distinct lists start)⟩

/-- The overlay that settings make of themselves: it gives all of them but the path. -/
def ofSettings (settings : Settings) : Overlay where
  growth := settings.growth.name
  listLimit := some settings.listLimit
  stringLimit := some settings.stringLimit
  policy := settings.policy.name
  exitCode := some settings.exitCode

/-- The sections of settings are read as their overlay. -/
theorem gives_ofSettings (words : settings.InWords)
    (named : settings.policy.name = encodeChars policy) (isName : IsName policy)
    (root : tree.root.Lists (Node.Lists Node.Spells) (settings.sections policy)) :
    Gives (record "config.configDisk" Overlay.fields {} tree tree.root)
      (some (ofSettings settings)) := by
  have list : List.Forall₂ (Takes tree listFields Node.Spells)
      [("growth".toList, settings.growth.word),
        ("max_len".toList, Settings.numberValue settings.listLimit)]
      [fun overlay => { overlay with growth := encodeChars settings.growth.word },
        fun overlay => { overlay with listLimit := some settings.listLimit }] :=
    .cons (takes_text "growth" (fun growth overlay => { overlay with growth }) (by decide)
        settings.growth.isName_word rfl)
      (.cons (takes_number "max_len" (fun limit overlay => { overlay with listLimit := some limit })
        (by decide) words.listLimit rfl) .nil)
  have strings : List.Forall₂ (Takes tree stringFields Node.Spells)
      [("max_len".toList, Settings.numberValue settings.stringLimit)]
      [fun overlay => { overlay with stringLimit := some settings.stringLimit }] :=
    .cons (takes_number "max_len" (fun limit overlay => { overlay with stringLimit := some limit })
      (by decide) words.stringLimit rfl) .nil
  have faults : List.Forall₂ (Takes tree faultFields Node.Spells)
      [("policy".toList, policy), ("exit_code".toList, Settings.numberValue settings.exitCode)]
      [fun overlay => { overlay with policy := encodeChars policy },
        fun overlay => { overlay with exitCode := some settings.exitCode }] :=
    .cons (takes_text "policy" (fun policy overlay => { overlay with policy }) (by decide)
        isName rfl)
      (.cons (takes_number "exit_code" (fun code overlay => { overlay with exitCode := some code })
        (by decide) words.exitCode rfl) .nil)
  have all : List.Forall₂ (Takes tree Overlay.fields (Node.Lists Node.Spells))
      (settings.sections policy) _ :=
    .cons (takes_part "list" (by decide) rfl list
        (show ["growth".toList, "max_len".toList].Nodup by decide))
      (.cons (takes_part "string" (by decide) rfl strings
          (show ["max_len".toList].Nodup by decide))
        (.cons (takes_part "faults" (by decide) rfl faults
          (show ["policy".toList, "exit_code".toList].Nodup by decide)) .nil))
  rw [ofSettings, named, settings.growth.name_eq]
  exact gives_record all (show ["list".toList, "string".toList, "faults".toList].Nodup by decide)
    root {}

/-- A settings document gives the overlay of the settings. -/
theorem ofBytes_render (accepted : settings.objection? = none) (words : settings.InWords) :
    Overlay.ofBytes settings.render = .ok (ofSettings settings) := by
  obtain ⟨policy, named, isName, short, _⟩ := Settings.policy_named accepted
  obtain ⟨tree, composed, root⟩ := @Tree.ofBytes_sections (settings.sections policy) nofun
    (Settings.fits_sections isName) (Settings.length_sections words short)
  rw [← Settings.documentChars_eq named isName] at composed
  exact ofBytes_of_gives composed (gives_ofSettings words named isName root)

/-- The growth policy after the overlay of settings is that of the settings, if it
has a name that is known, and never that of the base. -/
theorem growthOver_ofSettings (settings : Settings) (base : Growth) :
    (ofSettings settings).growthOver base =
      if settings.growth = .doubling ∨ settings.growth = .exact then .ok settings.growth
      else .error (.unknownGrowth settings.growth.name) := by
  have isWord := settings.growth.isName_word.isWord
  simp only [growthOver, ofSettings, settings.growth.name_eq, isWord.trim, isWord.encoded_ne_nil,
    if_false, Growth.ofName?_word]
  by_cases named : settings.growth = .doubling ∨ settings.growth = .exact
  · rw [if_pos named, if_pos named]
  · rw [if_neg named, if_neg named]

/-- The fault policy after the overlay of settings is that of the settings, and
never that of the base. -/
theorem policyOver_ofSettings (accepted : settings.objection? = none) (base : Policy) :
    (ofSettings settings).policyOver base = settings.policy := by
  obtain ⟨policy, named, isName, _, found⟩ := Settings.policy_named accepted
  simp only [policyOver, ofSettings, named, isName.isWord.trim, isName.isWord.encoded_ne_nil,
    if_false, found]

end Overlay

namespace Settings

/-- The path is no reason for an objection. -/
theorem checked_of_accepted {settings : Settings} (accepted : settings.objection? = none)
    (path : Bytes) : { settings with path }.checked = .ok { settings with path } := by
  have unobjected : { settings with path := path }.objection? = none := accepted
  rw [checked, unobjected]

/-- **Settings come back from their document.** Read over any base, the document of
settings without an objection gives the settings with the path of the base, if the
growth policy has a name; otherwise it is refused because of the name that it was
written under. Read over the default settings it gives an empty path. -/
theorem parseOver_render (settings base : Settings) (accepted : settings.objection? = none)
    (words : settings.InWords) :
    let readBack (path : Bytes) : Except SettingsError Settings :=
      if settings.growth = .doubling ∨ settings.growth = .exact then .ok { settings with path }
      else .error (.unknownGrowth settings.growth.name)
    parseOver settings.render base = readBack base.path ∧ parse settings.render = readBack [] := by
  intro readBack
  have read (base : Settings) : parseOver settings.render base = readBack base.path := by
    unfold parseOver Overlay.applyTo
    rw [Overlay.ofBytes_render accepted words]
    simp only [Overlay.growthOver_ofSettings, Overlay.policyOver_ofSettings accepted]
    by_cases named : settings.growth = .doubling ∨ settings.growth = .exact
    · simp only [readBack, if_pos named]
      exact checked_of_accepted accepted base.path
    · simp only [readBack, if_neg named]
      rfl
  exact ⟨read base, read {}⟩

/-- An exact growth policy, the largest list limit, no string limit and the smallest
exit code come back over a base that differs in everything. With a growth policy that
has no name the same settings are refused. -/
theorem extreme_settings_over_other_base :
    let settings : Settings :=
      { path := utf8 "old", growth := .exact, listLimit := Word.largest, stringLimit := 0,
        policy := .error, exitCode := Word.smallest }
    let base : Settings :=
      { path := utf8 "base", growth := .doubling, listLimit := 3, stringLimit := 5,
        policy := .abort, exitCode := 7 }
    parseOver settings.render base = .ok { settings with path := utf8 "base" } ∧
      parseOver { settings with growth := .unnamed 7 }.render base =
        .error (.unknownGrowth (utf8 "growth(7)")) := by
  intro settings base
  refine ⟨?_, ?_⟩
  · exact (parseOver_render settings base (by decide)
      ⟨by decide, by decide, by decide, by decide⟩).1
  · exact (parseOver_render { settings with growth := .unnamed 7 } base (by decide)
      ⟨by decide, by decide, by decide, by decide⟩).1

end Settings

end ContainerKernel
