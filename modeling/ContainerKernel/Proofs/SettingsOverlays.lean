import ContainerKernel.Proofs.GivenSettings
import ContainerKernel.Proofs.RecordLookups

/-!
# Settings documents over a base

A settings document gives some of five settings, and these replace those of a base. Which
ones are given is said here by looking them up in the document: a number under its two
names gives a limit or the exit code, zero as well as any other, and a name that is not
blank gives the growth policy or the fault policy. What is missing, null or blank gives
nothing.

Reading a document over a base and then over what came of it changes nothing any more. No
such thing is said of two documents one after the other: the second may take back what
made the first acceptable.
-/

namespace ContainerKernel

/-- A text without the white space around it, if anything is left of it. -/
def trimmed? (text : Bytes) : Option Bytes :=
  if trim text = [] then none else some (trim text)

/-- A text has a name exactly if the name is what trimming leaves and is not
empty. -/
theorem trimmed?_eq_some_iff {text name : Bytes} :
    trimmed? text = some name ↔ trim text = name ∧ name ≠ [] := by
  unfold trimmed?
  split
  · next blank => simp [blank, eq_comm]
  · next solid =>
    constructor
    · rintro ⟨⟩
      exact ⟨rfl, solid⟩
    · rintro ⟨rfl, _⟩
      rfl

namespace Document

/-- A word that means nothing but itself can be the name of a field. -/
theorem IsName.isFieldName {text : String} (isName : IsName text.toList) :
    Decode.IsFieldName (utf8 text) where
  meaning info value meaning found := by
    unfold scalarMeaning? at found
    split at found
    · obtain ⟨bytes, _, same⟩ := Option.map_eq_some_iff.mp found
      exact (Prod.mk.inj same).1.symm
    · obtain ⟨other, meant, same⟩ := Option.map_eq_some_iff.mp found
      obtain ⟨rfl, encoded⟩ := Prod.mk.inj same
      rw [encodeChars_injective (encoded : encodeChars value = encodeChars text.toList)] at meant
      cases tagged : info.tag <;>
        simp [Meaning.ofTagged?, tagged, isName.meaning, Meaning.tag] at meant
      all_goals exact meant.symm
  unmerged same := by
    have sign : '<' ∈ text.toList := by
      rw [encodeChars_injective (same : encodeChars text.toList = encodeChars ['<', '<'])]
      exact List.mem_cons_self
    exact absurd (isName.isWord.plain '<' sign) (by decide)

/-- The node under a name in the section of a document that another name has. -/
def Tree.nodeAt? (tree : Tree) (outer inner : String) : Option Node :=
  (tree.under? (utf8 outer) tree.root).bind (tree.under? (utf8 inner))

namespace Tree

/-! ## What a document says -/

/-- Nothing stands at two names, or null. -/
def NothingAt (tree : Tree) (outer inner : String) : Prop :=
  ∀ node, tree.nodeAt? outer inner = some node → ∃ bytes, tree.scalar? node = some (.null, bytes)

/-- A scalar stands at two names. -/
def MeansAt (tree : Tree) (outer inner : String) (meaning : Meaning) (bytes : Bytes) : Prop :=
  ∃ node, tree.nodeAt? outer inner = some node ∧ tree.scalar? node = some (meaning, bytes)

/-- The number that a document gives at two names. -/
structure SaysNumber (tree : Tree) (outer inner : String) (number : Option Int) : Prop where
  given : ∀ value, number = some value ↔
    ∃ meaning bytes, tree.MeansAt outer inner meaning bytes ∧ meaning.word? = some value
  nothing : tree.NothingAt outer inner → number = none
  zero : ∀ bytes, tree.MeansAt outer inner (.integer 0) bytes → number = some 0

/-- The name that a document gives at two names. -/
structure SaysName (tree : Tree) (outer inner : String) (name : Option Bytes) : Prop where
  given : ∀ value, name = some value ↔ ∃ meaning bytes, tree.MeansAt outer inner meaning bytes ∧
    meaning ≠ .null ∧ trim bytes = value ∧ value ≠ []
  nothing : tree.NothingAt outer inner → name = none
  blank : ∀ meaning bytes, tree.MeansAt outer inner meaning bytes → trim bytes = [] → name = none

variable {tree : Tree} {outer inner : String} {meaning other : Meaning} {bytes otherBytes : Bytes}

/-- One scalar stands at two names at most. -/
theorem MeansAt.unique (means : tree.MeansAt outer inner meaning bytes)
    (too : tree.MeansAt outer inner other otherBytes) : other = meaning ∧ otherBytes = bytes := by
  obtain ⟨node, found, meant⟩ := means
  obtain ⟨same, foundToo, meantToo⟩ := too
  cases found.symm.trans foundToo
  exact Prod.mk.inj (Option.some.inj (meantToo.symm.trans meant))

/-- Where nothing stands, no scalar does but null. -/
theorem NothingAt.null (nothing : tree.NothingAt outer inner)
    (means : tree.MeansAt outer inner meaning bytes) : meaning = .null := by
  obtain ⟨node, found, meant⟩ := means
  obtain ⟨_, isNull⟩ := nothing node found
  exact (Prod.mk.inj (Option.some.inj (meant.symm.trans isNull))).1

/-- Something is found at two names exactly if a scalar stands there that is not null. -/
theorem meaningAt?_iff : (tree.nodeAt? outer inner).bind tree.meaning? = some (meaning, bytes) ↔
    tree.MeansAt outer inner meaning bytes ∧ meaning ≠ .null := by
  simp only [Option.bind_eq_some_iff, Tree.meaning?, Option.filter_eq_some_iff, MeansAt,
    decide_eq_true_eq]
  constructor
  · rintro ⟨node, found, meant, present⟩
    exact ⟨⟨node, found, meant⟩, present⟩
  · rintro ⟨⟨node, found, meant⟩, present⟩
    exact ⟨node, found, meant, present⟩

/-- The number that is looked up is the one that a document gives. -/
theorem saysNumber (tree : Tree) (outer inner : String) :
    tree.SaysNumber outer inner ((tree.nodeAt? outer inner).bind tree.word?) := by
  have given (value : Int) : (tree.nodeAt? outer inner).bind tree.word? = some value ↔
      ∃ meaning bytes, tree.MeansAt outer inner meaning bytes ∧ meaning.word? = some value := by
    have looked : (tree.nodeAt? outer inner).bind tree.word? =
        ((tree.nodeAt? outer inner).bind tree.meaning?).bind fun found => found.1.word? :=
      (Option.bind_assoc ..).symm
    rw [looked, Option.bind_eq_some_iff]
    constructor
    · rintro ⟨⟨meaning, bytes⟩, found, number⟩
      exact ⟨meaning, bytes, (meaningAt?_iff.mp found).1, number⟩
    · rintro ⟨meaning, bytes, means, number⟩
      refine ⟨(meaning, bytes), meaningAt?_iff.mpr ⟨means, ?_⟩, number⟩
      rintro rfl
      cases number
  refine ⟨given, fun nothing => ?_, fun bytes means => (given 0).mpr ⟨_, bytes, means, rfl⟩⟩
  rw [Option.eq_none_iff_forall_ne_some]
  intro value found
  obtain ⟨meaning, bytes, means, number⟩ := (given value).mp found
  cases nothing.null means
  cases number

/-- The text that is looked up has the name that a document gives. -/
theorem saysName (tree : Tree) (outer inner : String) :
    tree.SaysName outer inner
      (trimmed? (((tree.nodeAt? outer inner).bind tree.text?).getD [])) := by
  have given (value : Bytes) :
      trimmed? (((tree.nodeAt? outer inner).bind tree.text?).getD []) = some value ↔
        ∃ meaning bytes, tree.MeansAt outer inner meaning bytes ∧ meaning ≠ .null ∧
          trim bytes = value ∧ value ≠ [] := by
    have looked : (tree.nodeAt? outer inner).bind tree.text? =
        ((tree.nodeAt? outer inner).bind tree.meaning?).map (·.2) := by
      cases tree.nodeAt? outer inner <;> rfl
    rw [looked]
    constructor
    · intro found
      cases meant : (tree.nodeAt? outer inner).bind tree.meaning? with
      | none =>
        rw [meant] at found
        cases found
      | some scalar =>
        obtain ⟨means, present⟩ := meaningAt?_iff.mp meant
        rw [meant] at found
        exact ⟨_, _, means, present, trimmed?_eq_some_iff.mp found⟩
    · rintro ⟨meaning, bytes, means, present, solid⟩
      rw [meaningAt?_iff.mpr ⟨means, present⟩]
      exact trimmed?_eq_some_iff.mpr solid
  refine ⟨given, fun nothing => ?_, fun meaning bytes means blank => ?_⟩
  all_goals
    rw [Option.eq_none_iff_forall_ne_some]
    intro value found
    obtain ⟨other, otherBytes, meansToo, present, same, solid⟩ := (given value).mp found
  · exact present (nothing.null meansToo)
  · obtain ⟨_, rfl⟩ := means.unique meansToo
    exact solid (same.symm.trans blank)

end Tree

end Document

open Document Document.Decode

/-- The names of a settings document can be names of fields. -/
theorem isFieldName_label {label : String} (member : label ∈ Settings.labels) :
    IsFieldName (utf8 label) :=
  (isName_label member).isFieldName

namespace Overlay

variable {tree : Tree}

/-! ## What the sections of a document set -/

/-- What a node under `list` sets. -/
def layList (tree : Tree) (node : Node) (overlay : Overlay) : Overlay :=
  { overlay with
    growth := ((tree.under? (utf8 "growth") node).bind tree.text?).elim overlay.growth id
    listLimit := ((tree.under? (utf8 "max_len") node).bind tree.word?).elim overlay.listLimit some }

/-- What a node under `string` sets. -/
def layString (tree : Tree) (node : Node) (overlay : Overlay) : Overlay :=
  { overlay with
    stringLimit :=
      ((tree.under? (utf8 "max_len") node).bind tree.word?).elim overlay.stringLimit some }

/-- What a node under `faults` sets. -/
def layFaults (tree : Tree) (node : Node) (overlay : Overlay) : Overlay :=
  { overlay with
    policy := ((tree.under? (utf8 "policy") node).bind tree.text?).elim overlay.policy id
    exitCode := ((tree.under? (utf8 "exit_code") node).bind tree.word?).elim overlay.exitCode some }

/-- Numbers are read where a field may go without. -/
theorem cleanly_limit (tree : Tree) (node : Node) :
    Cleanly (optional "int" (word "int") tree node) (· = tree.word? node) :=
  cleanly_optional (cleanly_word "int" tree node)

/-- A section with a name and a number is read as both are looked up in it. Nothing else is
touched. -/
theorem cleanly_section {τ : Type} (called typeName first second : String)
    (putName : Bytes → Overlay → Overlay) (putNumber : Int → Overlay → Overlay)
    (name : Overlay → Bytes) (number : Overlay → Option Int) (others : Overlay → τ)
    (names : first ∈ Settings.labels ∧ second ∈ Settings.labels)
    (apart : utf8 first ≠ utf8 second ∧ utf8 first ≠ utf8 "list" ∧ utf8 second ≠ utf8 "list")
    (named : ∀ value overlay, name (putName value overlay) = value ∧
      number (putName value overlay) = number overlay ∧
      others (putName value overlay) = others overlay)
    (numbered : ∀ value overlay, number (putNumber value overlay) = some value ∧
      name (putNumber value overlay) = name overlay ∧
      others (putNumber value overlay) = others overlay)
    (node : Node) (overlay : Overlay) :
    Cleanly ((part called typeName [field first text putName,
        field second (optional "int" (word "int")) putNumber]).set tree node overlay)
      fun after =>
        name after = ((tree.under? (utf8 first) node).bind tree.text?).elim (name overlay) id ∧
        number after =
          ((tree.under? (utf8 second) node).bind tree.word?).elim (number overlay) some ∧
        others after = others overlay := by
  let fields : List (RecordField Overlay) :=
    [field first text putName, field second (optional "int" (word "int")) putNumber]
  have showsName : Shows tree fields (utf8 first) name
      fun node old => (tree.text? node).elim old id :=
    .field (cleanly_text tree) (fun value record => (named value record).1) <|
      .skipField (cleanly_limit tree) apart.1.symm
        (fun value record => (numbered value record).2.1) .nil
  have showsNumber : Shows tree fields (utf8 second) number
      fun node old => (tree.word? node).elim old some :=
    .skipField (cleanly_text tree) apart.1 (fun value record => (named value record).2.1) <|
      .field (cleanly_limit tree) (fun value record => (numbered value record).1) .nil
  have hidesOthers : Shows tree fields (utf8 "list") others fun _ old => old :=
    .skipField (cleanly_text tree) apart.2.1 (fun value record => (named value record).2.2) <|
      .skipField (cleanly_limit tree) apart.2.2
        (fun value record => (numbered value record).2.2) .nil
  exact (cleanly_partField showsName (isFieldName_label names.1) overlay node).and
    ((cleanly_partField showsNumber (isFieldName_label names.2) overlay node).and
      (cleanly_partHidden hidesOthers (isFieldName_label (by decide)) overlay node))

/-- The section `list` is read as it is looked up. -/
theorem cleanly_list (node : Node) (overlay : Overlay) :
    Cleanly ((part "list" "config.listDisk" listFields).set tree node overlay)
      (· = overlay.layList tree node) := by
  have read := @cleanly_section tree _ "list" "config.listDisk" "growth" "max_len"
    (fun growth overlay => { overlay with growth })
    (fun limit overlay => { overlay with listLimit := some limit })
    growth listLimit
    (fun overlay => (overlay.stringLimit, overlay.policy, overlay.exitCode)) (by decide)
    (by decide) (fun _ _ => ⟨rfl, rfl, rfl⟩) (fun _ _ => ⟨rfl, rfl, rfl⟩) node overlay
  refine read.mono ?_
  rintro ⟨_, _, _, _, _⟩ ⟨rfl, rfl, same⟩
  cases same
  rfl

/-- The section `faults` is read as it is looked up. -/
theorem cleanly_faults (node : Node) (overlay : Overlay) :
    Cleanly ((part "faults" "config.faultsDisk" faultFields).set tree node overlay)
      (· = overlay.layFaults tree node) := by
  have read := @cleanly_section tree _ "faults" "config.faultsDisk" "policy" "exit_code"
    (fun policy overlay => { overlay with policy })
    (fun code overlay => { overlay with exitCode := some code })
    policy exitCode
    (fun overlay => (overlay.growth, overlay.listLimit, overlay.stringLimit)) (by decide)
    (by decide) (fun _ _ => ⟨rfl, rfl, rfl⟩) (fun _ _ => ⟨rfl, rfl, rfl⟩) node overlay
  refine read.mono ?_
  rintro ⟨_, _, _, _, _⟩ ⟨rfl, rfl, same⟩
  cases same
  rfl

/-- The section `string` is read as it is looked up. -/
theorem cleanly_string (node : Node) (overlay : Overlay) :
    Cleanly ((part "string" "config.stringDisk" stringFields).set tree node overlay)
      (· = overlay.layString tree node) := by
  have limit : Shows tree stringFields (utf8 "max_len") stringLimit
      fun node old => (tree.word? node).elim old some :=
    .field (cleanly_limit tree) (fun _ _ => rfl) .nil
  have others : Shows tree stringFields (utf8 "list")
      (fun overlay => (overlay.growth, overlay.listLimit, overlay.policy, overlay.exitCode))
      fun _ old => old :=
    .skipField (cleanly_limit tree) (by decide) (fun _ _ => rfl) .nil
  refine ((cleanly_partField limit (isFieldName_label (by decide)) overlay node).and
    (cleanly_partHidden others (isFieldName_label (by decide)) overlay node)).mono ?_
  rintro ⟨_, _, _, _, _⟩ ⟨rfl, same⟩
  cases same
  rfl

/-- The overlay that a document gives, by looking its fields up. -/
def ofTree (tree : Tree) : Overlay where
  growth := ((tree.nodeAt? "list" "growth").bind tree.text?).getD []
  listLimit := (tree.nodeAt? "list" "max_len").bind tree.word?
  stringLimit := (tree.nodeAt? "string" "max_len").bind tree.word?
  policy := ((tree.nodeAt? "faults" "policy").bind tree.text?).getD []
  exitCode := (tree.nodeAt? "faults" "exit_code").bind tree.word?

/-- A field of one of the three sections is seen in the whole as what is found at its two
names. -/
theorem cleanly_inner {α τ : Type} (outer inner : String) (found : Node → Option α)
    (view : Overlay → τ) (seen : α → τ) (member : outer ∈ Settings.labels)
    (shows : Shows tree fields (utf8 outer) view fun node old =>
      ((tree.under? (utf8 inner) node).bind found).elim old seen) :
    Cleanly (record "config.configDisk" fields {} tree tree.root) fun got =>
      view (got.getD {}) = ((tree.nodeAt? outer inner).bind found).elim (view {}) seen := by
  refine (cleanly_recordField shows (isFieldName_label member) {} tree.root).mono ?_
  intro got same
  rw [same, Tree.nodeAt?, Option.bind_assoc]

/-- A whole document is read as it is looked up. -/
theorem cleanly_overlay (tree : Tree) :
    Cleanly (record "config.configDisk" fields {} tree tree.root)
      fun got => got.getD {} = ofTree tree := by
  have growth := cleanly_inner "list" "growth" tree.text? growth id (by decide) <|
    .here cleanly_list rfl (fun _ _ => rfl) <| .skip cleanly_string (by decide) (fun _ _ => rfl) <|
      .skip cleanly_faults (by decide) (fun _ _ => rfl) .nil
  have listLimit := cleanly_inner "list" "max_len" tree.word? listLimit some (by decide) <|
    .here cleanly_list rfl (fun _ _ => rfl) <| .skip cleanly_string (by decide) (fun _ _ => rfl) <|
      .skip cleanly_faults (by decide) (fun _ _ => rfl) .nil
  have stringLimit := cleanly_inner "string" "max_len" tree.word? stringLimit some (by decide) <|
    .skip cleanly_list (by decide) (fun _ _ => rfl) <| .here cleanly_string rfl (fun _ _ => rfl) <|
      .skip cleanly_faults (by decide) (fun _ _ => rfl) .nil
  have policy := cleanly_inner "faults" "policy" tree.text? policy id (by decide) <|
    .skip cleanly_list (by decide) (fun _ _ => rfl) <|
      .skip cleanly_string (by decide) (fun _ _ => rfl) <|
      .here cleanly_faults rfl (fun _ _ => rfl) .nil
  have exitCode := cleanly_inner "faults" "exit_code" tree.word? exitCode some (by decide) <|
    .skip cleanly_list (by decide) (fun _ _ => rfl) <|
      .skip cleanly_string (by decide) (fun _ _ => rfl) <|
      .here cleanly_faults rfl (fun _ _ => rfl) .nil
  refine (growth.and (listLimit.and (stringLimit.and (policy.and exitCode)))).mono ?_
  intro got
  generalize got.getD {} = overlay
  rintro ⟨sameGrowth, sameList, sameString, samePolicy, sameCode⟩
  have name (text : Option Bytes) : text.elim [] id = text.getD [] := by cases text <;> rfl
  have number (word : Option Int) : word.elim none some = word := by cases word <;> rfl
  rw [name] at sameGrowth samePolicy
  rw [number] at sameList sameString sameCode
  rw [ofTree, ← sameGrowth, ← sameList, ← sameString, ← samePolicy, ← sameCode]

/-- The overlay of bytes is the one of their document, if they are one. -/
theorem ofBytes_ok {bytes : Bytes} {overlay : Overlay} (read : ofBytes bytes = .ok overlay) :
    (Tree.ofBytes bytes = .ok none ∧ overlay = {}) ∨
      ∃ tree, Tree.ofBytes bytes = .ok (some tree) ∧ overlay = ofTree tree := by
  obtain absent | ⟨tree, present, known⟩ := Decode.ofBytes_ok read
  · exact .inl absent
  · obtain ⟨found, same, rfl⟩ := known _ (cleanly_overlay tree)
    exact .inr ⟨tree, present, same⟩

/-- An overlay that gives settings gives a known growth policy, and its other fields
as they are. -/
theorem given_ok {overlay : Overlay} {given : GivenSettings} (gives : overlay.given = .ok given) :
    given.growth = (trimmed? overlay.growth).bind Growth.ofName? ∧
      given.growth.isSome = (trimmed? overlay.growth).isSome ∧
      given.listLimit = overlay.listLimit ∧ given.stringLimit = overlay.stringLimit ∧
      given.policy = (trimmed? overlay.policy).map Policy.ofName ∧
      given.exitCode = overlay.exitCode := by
  have policy : overlay.givenPolicy = (trimmed? overlay.policy).map Policy.ofName := by
    unfold givenPolicy trimmed?
    split <;> rfl
  unfold Overlay.given at gives
  unfold trimmed? at policy ⊢
  by_cases blank : trim overlay.growth = []
  · simp only [blank, if_true] at gives ⊢
    cases gives
    simp [policy]
  · simp only [blank, if_false] at gives ⊢
    cases known : Growth.ofName? (trim overlay.growth) with
    | none => simp [known] at gives
    | some growth =>
      simp only [known] at gives
      cases gives
      simp [policy, known]

/-- An overlay gives no settings only if it names a growth policy that is not
known. -/
theorem given_error {overlay : Overlay} {cause : SettingsError}
    (gives : overlay.given = .error cause) :
    ∃ name, trimmed? overlay.growth = some name ∧ Growth.ofName? name = none ∧
      cause = .unknownGrowth name := by
  unfold Overlay.given at gives
  unfold trimmed?
  by_cases blank : trim overlay.growth = []
  · simp [blank] at gives
  · simp only [blank, if_false] at gives ⊢
    cases known : Growth.ofName? (trim overlay.growth) with
    | none =>
      simp only [known] at gives
      cases gives
      exact ⟨_, rfl, known, rfl⟩
    | some growth => simp [known] at gives

end Overlay

/-! ## What a document gives -/

/-- Settings are those that the document of a tree gives. -/
structure GivenSettings.SaidBy (tree : Tree) (given : GivenSettings) : Prop where
  growth : ∃ name, tree.SaysName "list" "growth" name ∧
    given.growth = name.bind Growth.ofName? ∧ given.growth.isSome = name.isSome
  listLimit : tree.SaysNumber "list" "max_len" given.listLimit
  stringLimit : tree.SaysNumber "string" "max_len" given.stringLimit
  policy : ∃ name, tree.SaysName "faults" "policy" name ∧ given.policy = name.map Policy.ofName
  exitCode : tree.SaysNumber "faults" "exit_code" given.exitCode

/-- Settings are those that bytes give: none without a document. -/
inductive GivenSettings.GivenBy (bytes : Bytes) : GivenSettings → Prop
  | nothing (absent : Tree.ofBytes bytes = .ok none) : GivenBy bytes {}
  | document {tree : Tree} {given : GivenSettings} (present : Tree.ofBytes bytes = .ok (some tree))
      (fits : (Overlay.ofBytes bytes).isOk) (said : given.SaidBy tree) : GivenBy bytes given

/-- Why bytes give no settings: they are no settings document, or they name a growth policy
that there is not. -/
inductive Settings.Unreadable (bytes : Bytes) : SettingsError → Prop
  | document {cause : ReadError} (unread : Overlay.ofBytes bytes = .error cause) :
      Unreadable bytes (.document cause)
  | growth {tree : Tree} {name : Bytes} (present : Tree.ofBytes bytes = .ok (some tree))
      (fits : (Overlay.ofBytes bytes).isOk) (named : tree.SaysName "list" "growth" (some name))
      (unknown : Growth.ofName? name = none) : Unreadable bytes (.unknownGrowth name)

namespace GivenSettings

/-- What an overlay of a document gives is what the document says. -/
theorem saidBy_of_given {tree : Tree} {given : GivenSettings}
    (gives : (Overlay.ofTree tree).given = .ok given) : given.SaidBy tree := by
  obtain ⟨growth, known, listLimit, stringLimit, policy, exitCode⟩ := Overlay.given_ok gives
  exact {
    growth := ⟨_, tree.saysName "list" "growth", growth, known⟩
    listLimit := listLimit ▸ tree.saysNumber "list" "max_len"
    stringLimit := stringLimit ▸ tree.saysNumber "string" "max_len"
    policy := ⟨_, tree.saysName "faults" "policy", policy⟩
    exitCode := exitCode ▸ tree.saysNumber "faults" "exit_code" }

/-- Bytes give settings, or they are unreadable. -/
theorem ofBytes_cases (bytes : Bytes) :
    (∃ cause, Settings.Unreadable bytes cause ∧ ofBytes bytes = .error cause) ∨
      ∃ given, GivenBy bytes given ∧ ofBytes bytes = .ok given := by
  unfold ofBytes
  cases read : Overlay.ofBytes bytes with
  | error cause => exact .inl ⟨_, .document read, rfl⟩
  | ok overlay =>
    have fits : (Overlay.ofBytes bytes).isOk := by rw [read]; rfl
    dsimp only
    obtain ⟨absent, rfl⟩ | ⟨tree, present, rfl⟩ := Overlay.ofBytes_ok read
    · exact .inr ⟨{}, .nothing absent, by decide⟩
    · cases gives : (Overlay.ofTree tree).given with
      | ok given => exact .inr ⟨given, .document present fits (saidBy_of_given gives), rfl⟩
      | error cause =>
        obtain ⟨name, named, unknown, rfl⟩ := Overlay.given_error gives
        have said := tree.saysName "list" "growth"
        exact .inl ⟨_, .growth present fits (named ▸ said) unknown, rfl⟩

/-- Laying settings over what came of laying them changes nothing. -/
theorem applyTo_applyTo (given : GivenSettings) (base : Settings) :
    given.applyTo (given.applyTo base) = given.applyTo base := by
  have again {α : Type} (found : Option α) (old : α) :
      found.getD (found.getD old) = found.getD old := by
    cases found <;> rfl
  simp only [applyTo, again]

end GivenSettings

namespace Settings

/-- A settings document is laid over a base. Whether it can be read, and the error if it
cannot, is the same for all bases. If it can, then it gives some of the five settings, again
the same for all bases, and over a base these replace those of the base and nothing else. The
outcome is accepted or objected to as a whole, so that one document may mend one base and
spoil another. What is accepted keeps the place of the base, and the same document changes
nothing more of it. -/
theorem document_replaces_given_settings (bytes : Bytes) :
    (∃ cause, Unreadable bytes cause ∧ ∀ base, parseOver bytes base = .error cause) ∨
      ∃ given, GivenSettings.GivenBy bytes given ∧ ∀ base,
        ((given.applyTo base).objection? = none →
          parseOver bytes base = .ok (given.applyTo base)) ∧
        (∀ objection, (given.applyTo base).objection? = some objection →
          parseOver bytes base = .error (.objection objection)) ∧
        ∀ settings, parseOver bytes base = .ok settings →
          settings.objection? = none ∧ settings.path = base.path ∧
            parseOver bytes settings = .ok settings := by
  obtain ⟨cause, unreadable, read⟩ | ⟨given, givenBy, read⟩ := GivenSettings.ofBytes_cases bytes
  · refine .inl ⟨cause, unreadable, fun base => ?_⟩
    rw [parseOver_eq, read]
    rfl
  · have outcome (base : Settings) : parseOver bytes base = (given.applyTo base).checked := by
      rw [parseOver_eq, read]
      rfl
    refine .inr ⟨given, givenBy, fun base => ⟨?_, ?_, ?_⟩⟩
    · intro accepted
      rw [outcome]
      exact (checked_ok_iff _ _).mpr ⟨rfl, accepted⟩
    · intro objection objected
      rw [outcome, checked, objected]
    · intro settings parsed
      rw [outcome] at parsed
      obtain ⟨rfl, accepted⟩ := (checked_ok_iff _ _).mp parsed
      refine ⟨accepted, rfl, ?_⟩
      rw [outcome, given.applyTo_applyTo]
      exact parsed

/-- A limit of zero takes a limit away, while a blank name and null leave what is there. -/
theorem zero_replaces_blank_keeps :
    let document := utf8
      "list: \x7bmax_len: 0, growth: ' '\x7d\nstring: ~\nfaults: \x7bpolicy: ~, exit_code: 0\x7d\n"
    let base : Settings :=
      { path := utf8 "/etc/base", growth := .exact, listLimit := 8, stringLimit := 16
        policy := .error, exitCode := 7 }
    let laid := { base with listLimit := 0, exitCode := 0 }
    parseOver document base = .ok laid ∧ parseOver document laid = .ok laid ∧
      parseOver document {} = .error (.objection (.exitCodeRange 0)) := by
  intro document base laid
  have parsed : parseOver document base = .ok laid := by decide +kernel
  have spoiled : parseOver document {} = .error (.objection (.exitCodeRange 0)) := by
    decide +kernel
  obtain ⟨cause, _, failed⟩ | ⟨given, _, holds⟩ := document_replaces_given_settings document
  · cases (failed base).symm.trans parsed
  · exact ⟨parsed, ((holds base).2.2 laid parsed).2.2, spoiled⟩

end Settings

end ContainerKernel
