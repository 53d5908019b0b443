import ContainerKernel.Proofs.CleanReadings

/-!
# Records and the nodes under names

A field of a record is set from one node of a document: the one under the field's name.
It is found among a mapping's own entries first, and then in the mappings that it merges,
one after the other, each with what it merges itself. What is found first counts, even if
it is null.

The reading of a record does not look names up. It goes through the entries once and
keeps a list of the keys that are given already. That a clean reading comes to the same is
shown for one name at a time and for what one sees of the record through that field, so
that nothing has to be known of the other fields but that they leave this alone.
-/

namespace ContainerKernel.Document

namespace Tree

/-- The entries of a node that is a mapping. -/
def entries? (tree : Tree) (node : Node) : Option (List (Node × Node)) :=
  match tree.resolve node with
  | .mapping _ _ entries => some entries
  | _ => none

/-- The node under a name in a mapping: its own, or else the first among those that it
merges. The first number bounds the depth of merging. -/
def entry? (tree : Tree) (name : Bytes) : Nat → List (Node × Node) → Option Node
  | 0, _ => none
  | bound + 1, entries =>
    (tree.own? name entries).or <|
      (Decode.merged? entries).bind fun merged =>
        (Decode.mergeSources merged).findSome? fun source =>
          (tree.entries? source).bind fun inner => tree.entry? name bound inner

/-- The node under a name in a node that is a mapping. -/
def under? (tree : Tree) (name : Bytes) (node : Node) : Option Node :=
  (tree.entries? node).bind fun entries => tree.entry? name (tree.size + 1) entries

end Tree

namespace Decode

variable {σ τ : Type} {tree : Tree} {name : Bytes} {fields : List (RecordField σ)}
  {view : σ → τ} {change : Node → τ → τ} {typeName : String}

/-- What is seen of a record is changed by the field of the name in the given way, and by no
other field. -/
structure Shows (tree : Tree) (fields : List (RecordField σ)) (name : Bytes) (view : σ → τ)
    (change : Node → τ → τ) : Prop where
  sets : ∀ field ∈ fields, field.name = name → ∀ node record,
    Cleanly (field.set tree node record) fun after => view after = change node (view record)
  keeps : ∀ field ∈ fields, field.name ≠ name → ∀ node record,
    Cleanly (field.set tree node record) fun after => view after = view record

namespace Shows

variable {first : RecordField σ} {effect : Node → σ → σ}

/-- Nothing is seen of no fields. -/
theorem nil : Shows tree [] name view change where
  sets := nofun
  keeps := nofun

/-- A field is seen as what it changes, in front of others, if it has the name. -/
theorem here (acts : ∀ node record, Cleanly (first.set tree node record) (· = effect node record))
    (called : first.name = name)
    (seen : ∀ node record, view (effect node record) = change node (view record))
    (rest : Shows tree fields name view change) :
    Shows tree (first :: fields) name view change where
  sets := List.forall_mem_cons.mpr ⟨fun _ node record =>
    (acts node record).mono fun _ same => same ▸ seen node record, rest.sets⟩
  keeps := List.forall_mem_cons.mpr ⟨fun unlike => absurd called unlike, rest.keeps⟩

/-- A field of another name in front of others is not seen. -/
theorem skip (acts : ∀ node record, Cleanly (first.set tree node record) (· = effect node record))
    (called : first.name ≠ name) (unseen : ∀ node record, view (effect node record) = view record)
    (rest : Shows tree fields name view change) :
    Shows tree (first :: fields) name view change where
  sets := List.forall_mem_cons.mpr ⟨fun same => absurd same called, rest.sets⟩
  keeps := List.forall_mem_cons.mpr ⟨fun _ node record =>
    (acts node record).mono fun _ same => same ▸ unseen node record, rest.keeps⟩

variable {α : Type} {called : String} {read : Tree → Node → Decode (Option α)} {put : α → σ → σ}
  {found : Node → Option α}

/-- The field of the name is put into the record, and is then seen as what was put in. -/
theorem field {seen : α → τ} (reads : ∀ node, Cleanly (read tree node) (· = found node))
    (puts : ∀ value record, view (put value record) = seen value)
    (rest : Shows tree fields (utf8 called) view fun node old => (found node).elim old seen) :
    Shows tree (Decode.field called read put :: fields) (utf8 called) view
      fun node old => (found node).elim old seen := by
  refine .here (fun node record => cleanly_field (reads node) record) rfl ?_ rest
  intro node record
  cases found node with
  | none => rfl
  | some value => exact puts value record

/-- A field of another name is put into the record, and is not seen. -/
theorem skipField (reads : ∀ node, Cleanly (read tree node) (· = found node))
    (other : utf8 called ≠ name) (hidden : ∀ value record, view (put value record) = view record)
    (rest : Shows tree fields name view change) :
    Shows tree (Decode.field called read put :: fields) name view change := by
  refine .skip (fun node record => cleanly_field (reads node) record) other ?_ rest
  intro node record
  cases found node with
  | none => rfl
  | some value => exact hidden value record

end Shows

/-- A key of the name has been given already. -/
def Layered.Has (layered : Layered σ) (name : Bytes) : Prop :=
  .text name ∈ layered.given.getD []

/-- Entries in which a node is found under the name, or none is, have been put into a record.
Where the name was given before, the node does not count; otherwise it makes its change. In
any case the name has been given then, if such things are kept. -/
structure Lays (name : Bytes) (view : σ → τ) (change : Node → τ → τ) (found : Option Node)
    (before after : Layered σ) : Prop where
  given : before.Has name → view after.record = view before.record
  new : ¬ before.Has name →
    view after.record = found.elim (view before.record) (change · (view before.record))
  kept : after.given.isSome = before.given.isSome
  has : before.given.isSome = true → (after.Has name ↔ before.Has name ∨ found.isSome = true)

namespace Lays

variable {found later : Option Node} {before between after : Layered σ}

/-- A record into which nothing is put is as it was. -/
theorem refl (before : Layered σ) : Lays name view change none before before where
  given _ := rfl
  new _ := rfl
  kept := rfl
  has _ := by simp

/-- Where the name is given already, it does not matter what is found. -/
theorem of_has (lays : Lays name view change found before after) (has : before.Has name)
    (other : Option Node) : Lays name view change other before after where
  given := lays.given
  new unlike := absurd has unlike
  kept := lays.kept
  has keeps := by simp [lays.has keeps, has]

/-- A name can have been given only where names are kept. -/
theorem isSome_of_has {layered : Layered σ} (has : layered.Has name) :
    layered.given.isSome = true := by
  unfold Layered.Has at has
  cases given : layered.given with
  | some keys => rfl
  | none =>
    rw [given] at has
    cases has

/-- A name that has been given had been given before, if nothing was found. -/
theorem has_of_none (lays : Lays name view change none before after) (has : after.Has name) :
    before.Has name := by
  have keeps : before.given.isSome = true := lays.kept ▸ isSome_of_has has
  simpa using (lays.has keeps).mp has

/-- What is found first counts, if it is kept that it has been given. It need not be where
there is nothing else to be found. -/
theorem trans (first : Lays name view change found before between)
    (second : Lays name view change later between after)
    (keeps : before.given.isSome = true ∨ found = none ∨ later = none) :
    Lays name view change (found.or later) before after where
  given has := by
    rw [second.given ((first.has (isSome_of_has has)).mpr (.inl has)), first.given has]
  new unlike := by
    cases found with
    | none =>
      rw [second.new fun has => unlike (first.has_of_none has), first.new unlike]
      rfl
    | some node =>
      have last : view after.record = view between.record := by
        obtain keeps | impossible | rfl := keeps
        · exact second.given ((first.has keeps).mpr (.inr rfl))
        · cases impossible
        · by_cases has : between.Has name
          · exact second.given has
          · exact second.new has
      rw [last, first.new unlike]
      rfl
  kept := second.kept.trans first.kept
  has keeps := by
    rw [second.has (first.kept.trans keeps), first.has keeps]
    cases found <;> simp

/-- An entry is put in under its name. -/
theorem entry {record : σ} {value : Node} (fresh : ¬ before.Has name)
    (changed : view record = change value (view before.record)) :
    Lays name view change (some value) before
      { record, given := before.given.map (.text name :: ·) } where
  given has := absurd has fresh
  new _ := changed
  kept := Option.isSome_map
  has keeps := by
    obtain ⟨keys, given⟩ := Option.isSome_iff_exists.mp keeps
    simp [Layered.Has, given]

/-- An entry under another name is put in. -/
theorem other {record : σ} {found : Bytes} (unlike : found ≠ name)
    (same : view record = view before.record) :
    Lays name view change none before
      { record, given := before.given.map (.text found :: ·) } where
  given _ := same
  new _ := same
  kept := Option.isSome_map
  has keeps := by
    obtain ⟨keys, given⟩ := Option.isSome_iff_exists.mp keeps
    simp [Layered.Has, given, Ne.symm unlike]

/-- What a mapping merges is put in behind its own entries. The names that these have given
are kept meanwhile, also if none were kept before. -/
theorem merged {given : List KeyValue} (own : Lays name view change found before between)
    (known : .text name ∈ given ↔
      between.given.elim (found.isSome = true) (KeyValue.text name ∈ ·))
    (others : Lays name view change later { between with given := some given } after) :
    Lays name view change (found.or later) before
      { after with given := between.given.bind fun _ => after.given } := by
  have has : Layered.Has { between with given := some given } name ↔
      before.Has name ∨ found.isSome = true := by
    cases kept : between.given with
    | some keys =>
      rw [kept] at known
      have keeps : before.given.isSome = true := by
        rw [← own.kept, kept]
        rfl
      rw [← own.has keeps, Layered.Has, Layered.Has, kept]
      exact known
    | none =>
      rw [kept] at known
      have none : ¬ before.Has name := by
        intro has
        have keeps := isSome_of_has has
        rw [← own.kept, kept] at keeps
        cases keeps
      rw [or_iff_right none]
      exact known
  refine ⟨?given, ?new, ?kept, ?has⟩
  case given =>
    intro already
    exact (others.given (has.mpr (.inl already))).trans (own.given already)
  case new =>
    intro unlike
    cases found with
    | some node => exact (others.given (has.mpr (.inr rfl))).trans (own.new unlike)
    | none =>
      have still : ¬ Layered.Has { between with given := some given } name := by
        simpa [has] using unlike
      have same : view between.record = view before.record := own.new unlike
      refine (others.new still).trans ?_
      rw [same]
      rfl
  case kept =>
    rw [← own.kept]
    cases between.given with
    | none => rfl
    | some keys => exact others.kept
  case has =>
    intro keeps
    obtain ⟨keys, kept⟩ := Option.isSome_iff_exists.mp (own.kept.trans keeps)
    have all := others.has rfl
    rw [has] at all
    rw [kept, Option.isSome_or, Bool.or_eq_true, ← or_assoc]
    exact all

end Lays

/-- Whether a name has been given is asked of the keys by comparing them. -/
theorem any_same_iff (layered : Layered σ) (name : Bytes) :
    (layered.given.getD []).any (KeyValue.same (.text name)) = true ↔ layered.Has name := by
  rw [List.any_eq_true, Layered.Has]
  constructor
  · rintro ⟨key, member, same⟩
    exact (same_text_iff name key).mp same ▸ member
  · intro member
    exact ⟨_, member, (same_text_iff name _).mpr rfl⟩

/-- The own entries of a mapping are put into a record. A name that is done is not put in a
second time.

The induction is on the entries, with the record and the names that are done general. -/
theorem cleanly_ownEntries (shows : Shows tree fields name view change)
    (entries : List (Node × Node)) (done : List Bytes) (layered : Layered σ) :
    Cleanly (ownEntries typeName fields tree entries done layered)
      (Lays name view change (if name ∈ done then none else tree.own? name entries) layered) := by
  induction entries generalizing done layered with
  | nil =>
    refine cleanly_pure ?_
    rw [show tree.own? name [] = none from rfl, ite_self]
    exact .refl layered
  | cons entry rest inductionHypothesis =>
    obtain ⟨key, value⟩ := entry
    have goesOn : ∀ done layered, Cleanly (ownEntries typeName fields tree rest done layered)
        fun _ => True := by
      intro done layered
      exact (inductionHypothesis done layered).mono fun _ _ => trivial
    rw [ownEntries]
    split
    · next merges =>
      rw [Tree.own?_skip (.inl merges)]
      exact inductionHypothesis done layered
    · next unmerged =>
      refine (cleanly_text tree key).bind fun read => ?_
      cases read with
      | none =>
        refine (inductionHypothesis done layered).mono fun after lays readAs => ?_
        rw [Tree.own?_skip (.inr (by simp [← readAs]))]
        exact lays
      | some found =>
        dsimp only
        split
        · next given =>
          have has : layered.Has found := (any_same_iff layered found).mp given
          refine (inductionHypothesis done layered).mono fun after lays readAs => ?_
          by_cases here : found = name
          · exact lays.of_has (here ▸ has) _
          · rw [Tree.own?_skip (.inr (by simp [← readAs, here]))]
            exact lays
        · next notGiven =>
          have fresh : ¬ layered.Has found := fun has =>
            notGiven ((any_same_iff layered found).mpr has)
          cases taken : fields.find? (·.name = found) with
          | none => exact cleanly_noted _ (goesOn _ _)
          | some field =>
            dsimp only
            split
            · exact cleanly_noted _ (goesOn _ _)
            · next notDone =>
              have member : field ∈ fields := List.mem_of_find?_eq_some taken
              have called : field.name = found := by simpa using List.find?_some taken
              by_cases here : found = name
              · subst here
                refine (shows.sets field member called value layered.record).bind fun record => ?_
                refine (inductionHypothesis _ _).mono fun after lays changed readAs => ?_
                rw [if_pos List.mem_cons_self] at lays
                have own : tree.own? found ((key, value) :: rest) = some value := by
                  rw [Tree.own?_cons, if_pos ⟨Bool.eq_false_iff.mpr unmerged, readAs.symm⟩]
                rw [own, if_neg (by simpa using notDone)]
                exact (Lays.entry fresh changed).trans lays (.inr (.inr rfl))
              · refine (shows.keeps field member (called ▸ here) value layered.record).bind ?_
                intro record
                refine (inductionHypothesis _ _).mono fun after lays kept readAs => ?_
                have sameDone : (name ∈ found :: done) = (name ∈ done) := by
                  simp [Ne.symm here]
                rw [Tree.own?_skip (.inr (by simp [← readAs, here]))]
                simp only [sameDone] at lays
                exact (Lays.other here kept).trans lays (.inr (.inl rfl))

/-- A mapping is put into a record with all that it merges.

The induction is on the depth of merging, and in each mapping on the sources that it merges. -/
theorem cleanly_mappingLayers (shows : Shows tree fields name view change)
    (isFieldName : IsFieldName name) (bound : Nat) (entries : List (Node × Node))
    (layered : Layered σ) :
    Cleanly (mappingLayers typeName fields tree bound entries layered) fun found =>
      found.1 = true ∧
        Lays name view change (tree.entry? name bound entries) layered found.2 := by
  induction bound generalizing entries layered with
  | zero => exact cleanly_throw _ _
  | succ bound inductionHypothesis =>
    rw [mappingLayers, Tree.entry?]
    cases repeatedKeys entries with
    | cons problem problems =>
      exact ((cleanly_noteAll _).mono nofun).never (fun _ => cleanly_pure trivial) _
    | nil =>
      refine (cleanly_ownEntries shows entries [] layered).bind fun own => ?_
      rw [if_neg List.not_mem_nil]
      cases merged? entries with
      | none =>
        refine cleanly_pure fun lays => ⟨rfl, ?_⟩
        simpa using lays
      | some merged =>
        refine (cleanly_givenKeys isFieldName entries own.given).bind fun given => ?_
        refine Cleanly.bind (cleanly_foldlM (fun sources before after =>
          before.given.isSome = true →
          Lays name view change (sources.findSome? fun source =>
            (tree.entries? source).bind fun inner => tree.entry? name bound inner) before after)
          ?none ?more (mergeSources merged) _) fun all => cleanly_pure ?all
        case none =>
          intro held _
          exact .refl held
        case more =>
          intro source sources held
          refine cleanly_visit ?_
          cases resolved : tree.resolve source with
          | mapping info bracketed inner =>
            refine (inductionHypothesis inner held).bind fun found => cleanly_pure ?_
            rintro ⟨_, lays⟩ last later keeps
            have first : tree.entries? source = some inner := by
              rw [Tree.entries?, resolved]
            rw [List.findSome?_cons, first, Option.bind_some]
            have whole := lays.trans (later (lays.kept.trans keeps)) (.inl keeps)
            cases here : tree.entry? name bound inner <;> rw [here] at whole <;> exact whole
          | scalar | sequence | reference => exact cleanly_throw _ _
        case all =>
          intro merges known lays
          exact ⟨rfl, lays.merged known (merges rfl)⟩

/-- **A record shows the node under the name.** What is seen of it is changed by the node
under the name, if there is one, and stays what it was at the start otherwise. -/
theorem cleanly_record (shows : Shows tree fields name view change)
    (isFieldName : IsFieldName name) (start : σ) (node : Node) :
    Cleanly (record typeName fields start tree node) fun found =>
      view (found.getD start) =
        (tree.under? name node).elim (view start) (change · (view start)) := by
  unfold record
  refine cleanly_visit ?_
  unfold Tree.under? Tree.entries?
  cases tree.resolve node with
  | mapping info bracketed entries =>
    refine (cleanly_mappingLayers shows isFieldName (tree.size + 1) entries _).bind ?_
    rintro ⟨fits, layered⟩
    refine cleanly_pure ?_
    rintro ⟨rfl, lays⟩
    exact lays.new nofun
  | scalar info style value =>
    exact (cleanly_misfitScalar _ _ info value).andThen fun _ => cleanly_pure rfl
  | sequence | reference =>
    exact (cleanly_misfit _ _).never (fun _ => cleanly_pure trivial) _

/-- A field that is put into a record is seen as what is found in the node under its
name. -/
theorem cleanly_recordField {α : Type} {found : Node → Option α} {seen : α → τ}
    (shows : Shows tree fields name view fun node old => (found node).elim old seen)
    (isFieldName : IsFieldName name) (start : σ) (node : Node) :
    Cleanly (record typeName fields start tree node) fun got =>
      view (got.getD start) = ((tree.under? name node).bind found).elim (view start) seen := by
  refine (cleanly_record shows isFieldName start node).mono fun got same => ?_
  rw [same]
  cases tree.under? name node <;> rfl

/-- A field of a record that is a field itself is seen as what is found in the node
under its name. -/
theorem cleanly_partField {α : Type} {partName : String} {found : Node → Option α} {seen : α → τ}
    (shows : Shows tree fields name view fun node old => (found node).elim old seen)
    (isFieldName : IsFieldName name) (start : σ) (node : Node) :
    Cleanly ((part partName typeName fields).set tree node start) fun after =>
      view after = ((tree.under? name node).bind found).elim (view start) seen :=
  (cleanly_recordField shows isFieldName start node).bind fun _ => cleanly_pure id

/-- What none of the fields of a part touches stays as it is. -/
theorem cleanly_partHidden {partName : String}
    (shows : Shows tree fields name view fun _ old => old) (isFieldName : IsFieldName name)
    (start : σ) (node : Node) :
    Cleanly ((part partName typeName fields).set tree node start) fun after =>
      view after = view start := by
  refine (cleanly_record shows isFieldName start node).bind fun got => cleanly_pure fun same => ?_
  rw [same]
  cases tree.under? name node <;> rfl

/-- What a document gives is what a clean reading of its root finds. -/
theorem ofBytes_ok {read : Tree → Node → Decode (Option σ)} {start value : σ} {bytes : Bytes}
    (given : ofBytes read start bytes = .ok value) :
    (Tree.ofBytes bytes = .ok none ∧ value = start) ∨
      ∃ tree, Tree.ofBytes bytes = .ok (some tree) ∧
        ∀ after, Cleanly (read tree tree.root) after → ∃ found, after found ∧
          value = found.getD start := by
  unfold ofBytes at given
  split at given
  · cases given
  · next empty =>
    cases given
    exact .inl ⟨empty, rfl⟩
  · next tree present =>
    split at given
    · cases given
    · next found progress ran =>
      split at given
      · next clean =>
        cases given
        refine .inr ⟨tree, present, fun after cleanly => ⟨found, ?_, rfl⟩⟩
        have whole : Cleanly (countVisit >>= fun _ => read tree tree.root) after :=
          cleanly_countVisit.andThen fun _ => cleanly
        exact (whole _ _ _ ran).2 (List.isEmpty_iff.mp clean)
      · cases given

end Decode

end ContainerKernel.Document
