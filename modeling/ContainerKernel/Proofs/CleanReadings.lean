import ContainerKernel.Document.Record
import ContainerKernel.Proofs.PlainWords

/-!
# Readings without problems

A reading collects problems, and what it gives then is of no use. Of interest is what a
reading has found that adds none. Since problems are never taken back, each part of such
a reading adds none either. `Cleanly` says both at once: problems are only added, and if
none is, then something is known of the value. Nothing is said of readings that meet a
flaw.

What is known is stated by looking things up in the document, without visits, problems
and records: the meaning of a scalar, and the node under a name among the entries of a
mapping. The laws about single functions are collected here, up to the keys that a mapping
gives before it merges others.
-/

namespace ContainerKernel.Document

/-! ## Looking things up -/

/-- What a scalar means and the bytes that it stands for, if it looks like its tag. -/
def scalarMeaning? (info : NodeInfo) (value : List Char) : Option (Meaning × Bytes) :=
  if info.tag = .binary then (Base64.decode? value).map fun bytes => (.text, bytes)
  else (Meaning.ofTagged? info.tag value).map fun meaning => (meaning, encodeChars value)

/-- The signed word that a meaning stands for. -/
def Meaning.word? : Meaning → Option Int
  | .integer value => if Word.holds value then some value else none
  | .real value => Decode.wordOfReal? value
  | _ => none

namespace Tree

/-- What the scalar that a node is means and the bytes that it stands for. -/
def scalar? (tree : Tree) (node : Node) : Option (Meaning × Bytes) :=
  match tree.resolve node with
  | .scalar info _ value => scalarMeaning? info value
  | _ => none

/-- What a node means and the bytes that it stands for; null means nothing. -/
def meaning? (tree : Tree) (node : Node) : Option (Meaning × Bytes) :=
  (tree.scalar? node).filter fun found => found.1 ≠ .null

/-- The text of a node. -/
def text? (tree : Tree) (node : Node) : Option Bytes :=
  (tree.meaning? node).map (·.2)

/-- The number of a node. -/
def word? (tree : Tree) (node : Node) : Option Int :=
  (tree.meaning? node).bind fun found => found.1.word?

/-- The node under a name among the entries of a mapping, apart from what it merges. -/
def own? (tree : Tree) (name : Bytes) (entries : List (Node × Node)) : Option Node :=
  (entries.find? fun entry =>
    !Decode.isMerge entry.1 && tree.text? entry.1 = some name).map (·.2)

variable {tree : Tree} {name : Bytes} {key value : Node} {rest : List (Node × Node)}

/-- The first entry is found if its key is the name and does not merge; otherwise
the others are searched. -/
theorem own?_cons : tree.own? name ((key, value) :: rest) =
    if Decode.isMerge key = false ∧ tree.text? key = some name then some value
    else tree.own? name rest := by
  unfold own?
  rw [List.find?_cons]
  by_cases here : Decode.isMerge key = false ∧ tree.text? key = some name
  · simp [here]
  · rw [if_neg here]
    have skipped : (!Decode.isMerge key && decide (tree.text? key = some name)) = false := by
      simpa using here
    rw [skipped]

/-- An entry whose key merges or is not the name is skipped. -/
theorem own?_skip (unlike : Decode.isMerge key = true ∨ tree.text? key ≠ some name) :
    tree.own? name ((key, value) :: rest) = tree.own? name rest := by
  rw [own?_cons, if_neg]
  rintro ⟨unmerged, named⟩
  obtain merges | other := unlike
  · exact Bool.false_ne_true (unmerged.symm.trans merges)
  · exact other named

end Tree

namespace Decode

variable {α β σ τ : Type} {tree : Tree} {node : Node} {action : Decode α}

/-! ## Clean readings -/

/-- Problems are only added, and if none is, then the value is as described. -/
def Cleanly (action : Decode α) (after : α → Prop) : Prop :=
  ∀ progress value next, action progress = .ok (value, next) →
    progress.problems <+: next.problems ∧ (next.problems = progress.problems → after value)

namespace Cleanly

variable {middle after : α → Prop} {later : β → Prop}

/-- A clean reading gives whatever follows from what it is known to give. -/
theorem mono (cleanly : Cleanly action middle) (implies : ∀ value, middle value → after value) :
    Cleanly action after := by
  intro progress value next acted
  obtain ⟨added, known⟩ := cleanly progress value next acted
  exact ⟨added, fun same => implies value (known same)⟩

/-- Two readings one after the other are clean if each is. What is known of the
first value may be used in what is said of the second. -/
theorem bind {following : α → Decode β} (first : Cleanly action middle)
    (rest : ∀ value, Cleanly (following value) fun result => middle value → later result) :
    Cleanly (action >>= following) later := by
  intro progress result last acted
  obtain ⟨⟨value, next⟩, began, ended⟩ : ∃ between, action progress = .ok between ∧
      following between.1 between.2 = .ok (result, last) := by
    cases began : action progress with
    | error flaw =>
      simp only [Bind.bind, StateT.bind, began, Except.bind] at acted
      cases acted
    | ok between =>
      simp only [Bind.bind, StateT.bind, began, Except.bind] at acted
      exact ⟨between, rfl, acted⟩
  obtain ⟨added, known⟩ := first progress value next began
  obtain ⟨addedLater, knownLater⟩ := rest value next result last ended
  refine ⟨added.trans addedLater, ?_⟩
  intro same
  -- Nothing was added in between, because nothing is taken back.
  have unchanged : next.problems = progress.problems :=
    (List.IsPrefix.eq_of_length added
      (Nat.le_antisymm added.length_le (same ▸ addedLater.length_le))).symm
  exact knownLater (same.trans unchanged.symm) (known unchanged)

/-- A clean reading gives both of two things that it is known to give. -/
theorem and (cleanly : Cleanly action middle) (too : Cleanly action after) :
    Cleanly action fun value => middle value ∧ after value := by
  intro progress value next acted
  obtain ⟨added, known⟩ := cleanly progress value next acted
  obtain ⟨_, knownToo⟩ := too progress value next acted
  exact ⟨added, fun same => ⟨known same, knownToo same⟩⟩

/-- A reading after another one of which nothing is known gives what it gives
alone. -/
theorem andThen {following : α → Decode β} (first : Cleanly action fun _ => True)
    (rest : ∀ value, Cleanly (following value) later) : Cleanly (action >>= following) later :=
  first.bind fun value => (rest value).mono fun _ holds _ => holds

end Cleanly

/-- A value that is there already is read cleanly. -/
theorem cleanly_pure {after : α → Prop} {value : α} (holds : after value) :
    Cleanly (pure value) after := by
  intro progress found next acted
  cases acted
  exact ⟨List.prefix_rfl, fun _ => holds⟩

/-- A flaw reads nothing, and so nothing that is not clean. -/
theorem cleanly_throw (flaw : Flaw) (after : α → Prop) : Cleanly (throw flaw) after := by
  intro progress found next acted
  cases acted

/-- Noting problems is clean if there are none. -/
theorem cleanly_noteAll (problems : List Problem) :
    Cleanly (noteAll problems) fun _ => problems = [] := by
  intro progress found next acted
  cases acted
  refine ⟨List.prefix_append _ _, ?_⟩
  intro same
  exact List.append_right_eq_self.mp same

/-- What comes behind a problem is never clean. -/
theorem cleanly_noted {problem : Problem} {rest : Decode α} (after : α → Prop)
    (goesOn : Cleanly rest fun _ => True) : Cleanly (note problem >>= fun _ => rest) after := by
  refine (cleanly_noteAll [problem]).bind ?_
  intro _
  refine goesOn.mono ?_
  rintro value - impossible
  cases impossible

/-- Looking at what has been done is clean. -/
theorem cleanly_get : Cleanly (get : Decode ReadProgress) fun _ => True := by
  intro progress found next acted
  cases acted
  exact ⟨List.prefix_rfl, fun _ => trivial⟩

/-- Remembering which aliases are followed is clean. -/
theorem cleanly_followed (followed : List Nat) :
    Cleanly (modify fun progress => { progress with followed }) fun _ => True := by
  intro progress found next acted
  cases acted
  exact ⟨List.prefix_rfl, fun _ => trivial⟩

/-- Counting a visit is clean. -/
theorem cleanly_countVisit : Cleanly countVisit fun _ => True := by
  intro progress found next acted
  unfold countVisit at acted
  simp only [Bind.bind, StateT.bind, get, getThe, MonadStateOf.get, StateT.get, Pure.pure,
    Except.pure, Except.bind] at acted
  by_cases tooMany : excessive (progress.visits + 1)
      (progress.aliasVisits + if progress.followed.isEmpty then 0 else 1) = true
  · rw [if_pos tooMany] at acted
    cases acted
  · rw [if_neg tooMany] at acted
    cases acted
    exact ⟨List.prefix_rfl, fun _ => trivial⟩

/-- Visiting a node reads the node that it stands for. -/
theorem cleanly_visit {read : Node → Decode α} {after : α → Prop}
    (cleanly : Cleanly (read (tree.resolve node)) after) :
    Cleanly (visit tree node read) after := by
  refine cleanly_countVisit.andThen fun _ => ?_
  cases node with
  | scalar | sequence | mapping => exact cleanly
  | reference info name index target =>
    refine cleanly_get.andThen fun progress => ?_
    dsimp only
    split
    · exact cleanly_throw _ _
    · refine (cleanly_followed _).andThen fun _ => ?_
      refine cleanly_countVisit.andThen fun _ => ?_
      refine cleanly.bind fun value => ?_
      refine (cleanly_followed _).andThen fun _ => ?_
      exact cleanly_pure id

/-! ## Scalars -/

/-- What comes behind a reading that is never clean is never clean. -/
theorem Cleanly.never {following : α → Decode β} (first : Cleanly action fun _ => False)
    (rest : ∀ value, Cleanly (following value) fun _ => True) (later : β → Prop) :
    Cleanly (action >>= following) later :=
  first.bind fun value => (rest value).mono fun _ _ => False.elim

/-- The meaning of a scalar is read as the one that is looked up. -/
theorem cleanly_meaningOf (info : NodeInfo) (value : List Char) :
    Cleanly (meaningOf info value) fun found => scalarMeaning? info value = some found := by
  unfold meaningOf scalarMeaning?
  split
  · cases Base64.decode? value with
    | none => exact cleanly_throw _ _
    | some bytes => exact cleanly_pure rfl
  · cases Meaning.ofTagged? info.tag value with
    | none => exact cleanly_throw _ _
    | some meaning => exact cleanly_pure rfl

/-- A node that does not fit is never clean. -/
theorem cleanly_misfit (wanted : String) (node : Node) :
    Cleanly (misfit wanted node) fun _ => False :=
  (cleanly_noteAll _).mono nofun

/-- A collection in place of a scalar is never clean. -/
theorem cleanly_misfitCollection (wanted : String) (node : Node) :
    Cleanly (misfitCollection wanted node) fun _ => False := by
  unfold misfitCollection
  split
  · split
    · exact cleanly_misfit wanted _
    · next repeated => exact (cleanly_noteAll _).mono fun _ none => repeated none
  · exact cleanly_misfit wanted _

/-- A scalar in place of a collection takes no problem back. -/
theorem cleanly_misfitScalar (wanted : String) (node : Node) (info : NodeInfo)
    (value : List Char) : Cleanly (misfitScalar wanted node info value) fun _ => True := by
  refine (cleanly_meaningOf info value).bind fun found => ?_
  dsimp only
  split
  · exact (cleanly_misfit wanted node).mono fun _ _ _ => trivial
  · exact cleanly_pure fun _ => trivial

/-- A scalar is read as what fits its meaning. -/
theorem cleanly_scalar (wanted : String) (fit : Meaning → Bytes → Option α) (tree : Tree)
    (node : Node) :
    Cleanly (scalar wanted fit tree node) fun found =>
      found = (tree.meaning? node).bind fun meant => fit meant.1 meant.2 := by
  unfold scalar
  refine cleanly_visit ?_
  unfold Tree.meaning? Tree.scalar?
  cases tree.resolve node with
  | scalar info style value =>
    refine (cleanly_meaningOf info value).bind ?_
    rintro ⟨meaning, bytes⟩
    dsimp only
    split
    · next isNull =>
      refine cleanly_pure fun meant => ?_
      simp [meant, isNull, Option.filter_some]
    · next present =>
      cases fits : fit meaning bytes with
      | some fitting =>
        refine cleanly_pure fun meant => ?_
        simp [meant, present, fits, Option.filter_some]
      | none => exact (cleanly_misfit wanted _).never (fun _ => cleanly_pure trivial) _
  | sequence | mapping | reference =>
    exact (cleanly_misfitCollection wanted _).never (fun _ => cleanly_pure trivial) _

/-- A text is read as it stands. -/
theorem cleanly_text (tree : Tree) (node : Node) :
    Cleanly (text tree node) fun found => found = tree.text? node := by
  unfold text namedText
  refine (cleanly_scalar _ _ tree node).mono ?_
  rintro found rfl
  unfold Tree.text?
  cases tree.meaning? node <;> rfl

/-- A number is read as the word that it is. -/
theorem cleanly_word (wanted : String) (tree : Tree) (node : Node) :
    Cleanly (word wanted tree node) fun found => found = tree.word? node := by
  unfold word
  refine (cleanly_scalar _ _ tree node).mono ?_
  rintro found rfl
  unfold Tree.word?
  rcases tree.meaning? node with _ | ⟨meaning, bytes⟩
  · rfl
  · cases meaning <;> rfl

/-- Where a place may go without, what is there is read in the same way. -/
theorem cleanly_optional {wanted : String} {read : Tree → Node → Decode (Option α)}
    {after : Option α → Prop} (cleanly : Cleanly (read tree node) after) :
    Cleanly (optional wanted read tree node) after := by
  unfold optional
  split
  · refine cleanly_visit ?_
    exact (cleanly_misfitCollection _ _).never (fun _ => cleanly_pure trivial) _
  · exact cleanly

/-- A field is set to what is read, if anything is. -/
theorem cleanly_field {name : String} {read : Tree → Node → Decode (Option α)} {put : α → σ → σ}
    {found : Option α} (cleanly : Cleanly (read tree node) fun value => value = found)
    (record : σ) :
    Cleanly ((field name read put).set tree node record) fun after =>
      after = found.elim record (put · record) := by
  refine cleanly.bind fun value => ?_
  cases value with
  | none =>
    refine cleanly_pure ?_
    rintro rfl
    rfl
  | some value =>
    refine cleanly_pure ?_
    rintro rfl
    rfl

/-! ## Keys -/

/-- Folding readings: what is said of a list of items follows from what each step adds to
what is said of the rest. -/
theorem cleanly_foldlM (after : List α → β → β → Prop) {step : β → α → Decode β}
    (none : ∀ held, after [] held held)
    (more : ∀ item rest held, Cleanly (step held item) fun next =>
      ∀ last, after rest next last → after (item :: rest) held last)
    (items : List α) (start : β) : Cleanly (items.foldlM step start) (after items start) := by
  induction items generalizing start with
  | nil => exact cleanly_pure (none start)
  | cons item rest inductionHypothesis =>
    rw [List.foldlM_cons]
    refine (more item rest start).bind fun next => (inductionHypothesis next).mono ?_
    intro last later extended
    exact extended last later

/-- Folding readings of which nothing is known takes no problem back. -/
theorem cleanly_fold {step : β → α → Decode β}
    (each : ∀ item held, Cleanly (step held item) fun _ => True)
    (items : List α) (start : β) : Cleanly (items.foldlM step start) fun _ => True :=
  cleanly_foldlM (fun _ _ _ => True) (fun _ => trivial)
    (fun item _ held => (each item held).mono fun _ _ _ _ => trivial) items start

/-- Reading something and making something else of it takes no problem back. -/
theorem cleanly_map (make : α → β) (cleanly : Cleanly action fun _ => True) :
    Cleanly (make <$> action) fun _ => True := by
  rw [← bind_pure_comp]
  exact cleanly.andThen fun _ => cleanly_pure trivial

/-- Texts are the same as themselves only. -/
theorem same_text_iff (name : Bytes) (key : KeyValue) :
    KeyValue.same (.text name) key = true ↔ key = .text name := by
  cases key <;> simp [KeyValue.same, eq_comm]

/-- A key that is no collection is given, and no other. -/
theorem cleanly_giveKey (key : KeyValue) (given : Option (List KeyValue)) :
    Cleanly (giveKey key given) fun found =>
      (∀ kind, key ≠ .collection kind) ∧
        ∀ known, given = some known → ∃ all, found.2 = some all ∧
          ∀ name, .text name ∈ all ↔ .text name ∈ known ∨ key = .text name := by
  unfold giveKey
  split
  · split
    · exact cleanly_throw _ _
    · next scalar => exact cleanly_pure ⟨scalar, nofun⟩
  · next given =>
    split
    · exact cleanly_throw _ _
    · next scalar =>
      refine cleanly_pure ⟨scalar, ?_⟩
      rintro _ ⟨⟩
      split
      · next known =>
        refine ⟨given, rfl, fun name => ⟨.inl, ?_⟩⟩
        rintro (member | rfl)
        · exact member
        · obtain ⟨other, member, same⟩ := List.any_eq_true.mp known
          exact (same_text_iff name other).mp same ▸ member
      · refine ⟨key :: given, rfl, fun name => ?_⟩
        rw [List.mem_cons, or_comm, eq_comm]

/-- Reading keys of any kind never takes a problem back.

The three functions call each other with smaller bounds, so that one induction on the bound
serves all of them. -/
theorem cleanly_keys (tree : Tree) (bound : Nat) :
    (∀ node given, Cleanly (keyValue tree bound node given) fun _ => True) ∧
      (∀ kind entries given, Cleanly (keyEntries tree kind bound entries given) fun _ => True) ∧
      ∀ entries given, Cleanly (ownKeys tree bound entries given) fun _ => True := by
  induction bound with
  | zero =>
    refine ⟨?_, ?_, ?_⟩
    · intro node given
      exact cleanly_throw _ _
    · intro kind entries given
      exact cleanly_throw _ _
    · intro entries given
      cases given with
      | some given => exact cleanly_pure trivial
      | none => exact cleanly_throw _ _
  | succ bound inductionHypothesis =>
    obtain ⟨keys, mappings, starts⟩ := inductionHypothesis
    refine ⟨?value, ?entries, ?own⟩
    case value =>
      intro node given
      rw [keyValue]
      refine cleanly_visit ?_
      cases tree.resolve node with
      | scalar info style value =>
        exact (cleanly_meaningOf info value).bind fun _ => cleanly_pure fun _ => trivial
      | sequence info bracketed items =>
        refine (cleanly_fold ?_ items given).andThen fun _ => cleanly_pure trivial
        intro item held
        exact (keys item held).andThen fun _ => cleanly_pure trivial
      | mapping info bracketed entries =>
        dsimp only
        split
        · exact (cleanly_noteAll _).bind fun _ => cleanly_pure fun _ => trivial
        · exact (mappings _ entries given).andThen fun _ => cleanly_pure trivial
      | reference => exact cleanly_pure trivial
    case entries =>
      intro kind entries given
      rw [keyEntries]
      refine (cleanly_fold ?_ entries given).andThen fun own => ?_
      · rintro ⟨key, value⟩ held
        dsimp only
        split
        · exact cleanly_pure trivial
        · split
          case' isTrue =>
            refine (cleanly_map _ ((cleanly_text tree key).mono fun _ _ => trivial)).andThen ?_
          case' isFalse => refine (cleanly_map _ (keys key none)).andThen ?_
          all_goals
            intro read
            cases read with
            | none => exact cleanly_pure trivial
            | some read =>
              refine ((cleanly_giveKey read held).mono fun _ _ => trivial).andThen fun found => ?_
              split
              · exact (keys value none).andThen fun _ => cleanly_pure trivial
              · exact cleanly_pure trivial
      · split
        · exact cleanly_pure trivial
        · next merged _ =>
          refine (starts entries own).andThen fun start => ?_
          refine (cleanly_fold ?_ (mergeSources merged) (some start)).andThen fun _ =>
            cleanly_pure trivial
          intro source held
          refine cleanly_visit ?_
          split
          · split
            · exact mappings kind _ held
            · exact (cleanly_noteAll _).bind fun _ => cleanly_pure fun _ => trivial
          · exact cleanly_throw _ _
    case own =>
      intro entries given
      cases given with
      | some given => exact cleanly_pure trivial
      | none =>
        rw [ownKeys]
        refine cleanly_fold ?_ entries []
        rintro ⟨key, value⟩ held
        refine (keys key (some held)).andThen ?_
        rintro ⟨read, given⟩
        cases read with
        | none => exact cleanly_pure trivial
        | some read =>
          exact (cleanly_giveKey read given).bind fun _ => cleanly_pure fun _ => trivial

/-- Whether a name is always read as a text, and does not merge anything. -/
structure IsFieldName (name : Bytes) : Prop where
  meaning : ∀ info value meaning, scalarMeaning? info value = some (meaning, name) →
    meaning = .text
  unmerged : name ≠ encodeChars ['<', '<']

/-- A key that merges has another text than a field. -/
theorem IsFieldName.text?_of_isMerge {name : Bytes} (isFieldName : IsFieldName name)
    (merges : isMerge node = true) : tree.text? node ≠ some name := by
  cases node with
  | scalar info style value =>
    simp only [isMerge, Bool.and_eq_true, decide_eq_true_eq] at merges
    obtain ⟨rfl, tagged⟩ := merges
    intro same
    apply isFieldName.unmerged
    simp [Tree.text?, Tree.meaning?, Tree.scalar?, Tree.resolve, scalarMeaning?, tagged,
      Meaning.ofTagged?, Option.filter_some] at same
    exact same.symm
  | sequence | mapping | reference => cases merges

/-- A key of a mapping that is no collection leaves the given keys as they are, and is
read as a name exactly if that is its text. -/
theorem cleanly_keyValue {name : Bytes} (isFieldName : IsFieldName name) (bound : Nat) (node : Node)
    (given : Option (List KeyValue)) :
    Cleanly (keyValue tree bound node given) fun found =>
      (∃ kind, found.1 = some (.collection kind)) ∨
        found.2 = given ∧ (found.1 = some (.text name) ↔ tree.text? node = some name) := by
  cases bound with
  | zero => exact cleanly_throw _ _
  | succ bound =>
    obtain ⟨keys, mappings, _⟩ := cleanly_keys tree bound
    rw [keyValue]
    refine cleanly_visit ?_
    unfold Tree.text? Tree.meaning? Tree.scalar?
    cases tree.resolve node with
    | scalar info style value =>
      refine (cleanly_meaningOf info value).bind ?_
      rintro ⟨meaning, bytes⟩
      refine cleanly_pure fun meant => .inr ⟨rfl, ?_⟩
      simp only [meant, Option.filter_some]
      constructor
      · intro same
        cases meaning with
        | text =>
          cases same
          rfl
        | null | bool | integer | real | timestamp => cases same
      · intro same
        split at same
        · cases same
          rw [isFieldName.meaning info value meaning meant]
          rfl
        · cases same
    | sequence info bracketed items =>
      refine (cleanly_fold ?_ items given).andThen fun _ => cleanly_pure (.inl ⟨_, rfl⟩)
      intro item held
      exact (keys item held).andThen fun _ => cleanly_pure trivial
    | mapping info bracketed entries =>
      dsimp only
      split
      · refine (cleanly_noteAll _).bind fun _ => cleanly_pure nofun
      · exact (mappings _ entries given).andThen fun _ => cleanly_pure (.inl ⟨_, rfl⟩)
    | reference => exact cleanly_pure (.inr ⟨rfl, by simp⟩)

/-- The keys that a mapping gives before it merges others are those of its own entries, where
none are given from outside. -/
theorem cleanly_givenKeys {name : Bytes} (isFieldName : IsFieldName name)
    (entries : List (Node × Node)) (given : Option (List KeyValue)) :
    Cleanly (givenKeys tree entries given) fun all =>
      .text name ∈ all ↔
        given.elim ((tree.own? name entries).isSome = true) (KeyValue.text name ∈ ·) := by
  unfold givenKeys
  cases given with
  | some known => cases (tree.size + 2) * (tree.size + 2) <;> exact cleanly_pure Iff.rfl
  | none =>
    cases (tree.size + 2) * (tree.size + 2) with
    | zero => exact cleanly_throw _ _
    | succ bound =>
      rw [ownKeys]
      refine (cleanly_foldlM (fun entries given all => KeyValue.text name ∈ all ↔
        .text name ∈ given ∨ (tree.own? name entries).isSome = true) ?_ ?_ entries []).mono ?_
      · intro held
        simp [Tree.own?]
      · rintro ⟨key, value⟩ rest held
        have first : ∀ next : List KeyValue,
            (KeyValue.text name ∈ next ↔ .text name ∈ held ∨ tree.text? key = some name) →
            ∀ last : List KeyValue,
            (KeyValue.text name ∈ last ↔
              .text name ∈ next ∨ (tree.own? name rest).isSome = true) →
            (KeyValue.text name ∈ last ↔ .text name ∈ held ∨
              (tree.own? name ((key, value) :: rest)).isSome = true) := by
          intro next here last later
          rw [later, here, Tree.own?_cons, or_assoc]
          refine or_congr_right ?_
          by_cases named : tree.text? key = some name
          · have unmerged : isMerge key = false :=
              Bool.eq_false_iff.mpr fun merges => isFieldName.text?_of_isMerge merges named
            simp [named, unmerged]
          · simp [named]
        refine (cleanly_keyValue isFieldName bound key (some held)).bind ?_
        rintro ⟨read, given⟩
        cases read with
        | none =>
          refine cleanly_pure ?_
          rintro (⟨kind, impossible⟩ | ⟨rfl, readAs⟩)
          · cases impossible
          · exact first _ (by simp [← readAs])
        | some read =>
          refine (cleanly_giveKey read given).bind fun found => cleanly_pure ?_
          rintro ⟨scalar, gives⟩ (⟨kind, isCollection⟩ | ⟨rfl, readAs⟩)
          · exact absurd (Option.some.inj isCollection) (scalar kind)
          · obtain ⟨all, same, known⟩ := gives held rfl
            refine first _ ?_
            rw [same, Option.getD_some, known, ← readAs, Option.some.injEq]
      · intro all known
        simpa using known

end Decode

end ContainerKernel.Document
