import ContainerKernel.Proofs.NewContainers

/-!
# Joins in whichever grouping

A text that is put together from several parts can be made in many ways: a buffer can
be added to a string directly, or made a string first and then joined, and of several
joins any may be done first. A `Grouping` is such a way, and its parts in order are all
that matters. The text that comes of it holds the parts one after the other, and it is
refused exactly if that whole text is too long: what is made on the way is shorter, so
no limit stops it that would not stop the whole text as well.

The two ways to add a buffer are the smallest example. They cut the buffer at different
moments and check the limit at different lengths, and still one succeeds exactly if the
other does.
-/

namespace ContainerKernel

/-- A part of a text: a string that is there already, or a buffer up to its first NUL
byte. -/
inductive Part where
  | stored (handle : Int)
  | buffer (data : Bytes)
deriving DecidableEq, Repr

namespace Part

/-- The bytes of a part. -/
def bytes (kernel : Kernel) : Part → Bytes
  | stored handle => (kernel.text? handle).getD []
  | buffer data => terminated data

/-- A part that is a string has to be there. -/
def Live (kernel : Kernel) : Part → Prop
  | stored handle => ∃ text, kernel.text? handle = some text
  | buffer _ => True

end Part

/-- A way to put a text together. -/
inductive Grouping where
  /-- A string that is there already. -/
  | stored (handle : Int)
  /-- A new string of a buffer. -/
  | made (data : Bytes)
  /-- A text with a buffer added to it. -/
  | added (front : Grouping) (data : Bytes)
  /-- Two texts joined. -/
  | joined (front back : Grouping)
deriving DecidableEq, Repr

namespace Kernel

variable {kernel : Kernel} {operation : Operation} {handle : Int} {text : Bytes}

/-- An operation whose operands are there makes the string that it is to make, or fails;
which of the two is up to the settings. -/
theorem step_text_cases (built : kernel.built? operation = some text)
    (makes : operation.makesString = true) :
    (kernel.settings.allowsText operation.joins text = true ∧
      ∃ handle, (kernel.step operation).2.result = .ok (.handle handle) ∧
        (kernel.step operation).1.text? handle = some text) ∨
    (kernel.settings.allowsText operation.joins text = false ∧
      ∃ failure, (kernel.step operation).2.result = .error failure) := by
  cases allowed : kernel.settings.allowsText operation.joins text with
  | true =>
    have stored : kernel.stored? operation = some text := by
      rw [stored?, built, Option.filter_some, if_pos allowed]
    have made := result_of_stored stored
    obtain ⟨same, builtToo, live⟩ := text?_made makes made
    cases built.symm.trans builtToo
    exact .inl ⟨rfl, _, made, live⟩
  | false =>
    have unstored : kernel.stored? operation = none := by
      rw [stored?, built, Option.filter_some, allowed]
      rfl
    obtain ⟨misuse, failed⟩ := misuse_of_unstored makes unstored
    refine .inr ⟨rfl, kernel.settings.failure misuse.fault, ?_⟩
    rw [step_result, failed]
    rfl

/-- What a later kernel has in common with an earlier one: the settings, and all strings
that were there. -/
structure Outlives (kernel later : Kernel) : Prop where
  settings : later.settings = kernel.settings
  texts : ∀ handle text, kernel.text? handle = some text → later.text? handle = some text

theorem Outlives.refl (kernel : Kernel) : kernel.Outlives kernel :=
  ⟨rfl, fun _ _ live => live⟩

theorem Outlives.trans {first second third : Kernel} (one : first.Outlives second)
    (other : second.Outlives third) : first.Outlives third where
  settings := other.settings.trans one.settings
  texts handle text live := other.texts handle text (one.texts handle text live)

/-- Every operation leaves the settings and the strings. -/
theorem outlives_step (kernel : Kernel) (operation : Operation) :
    kernel.Outlives (kernel.step operation).1 where
  settings := settings_step kernel operation
  texts _ _ live := text?_run [operation] live

/-- An operation, with the answer to it alone. -/
def answer (kernel : Kernel) (operation : Operation) : Kernel × Except Failure Reply :=
  ((kernel.step operation).1, (kernel.step operation).2.result)

/-- Go on with the handle that was answered; anything else is the last answer. -/
def afterHandle (answered : Kernel × Except Failure Reply)
    (following : Kernel → Int → Kernel × Except Failure Reply) : Kernel × Except Failure Reply :=
  match answered with
  | (next, .ok (.handle handle)) => following next handle
  | last => last

/-- What was done has made the given text, if that is allowed, and otherwise has failed;
in either case it has left the settings and the strings. -/
structure Builds (kernel : Kernel) (text : Bytes) (allowed : Prop)
    (answered : Kernel × Except Failure Reply) : Prop where
  outlives : kernel.Outlives answered.1
  verdict :
    (allowed ∧ ∃ handle, answered.2 = .ok (.handle handle) ∧
      answered.1.text? handle = some text) ∨
    (¬ allowed ∧ ∃ failure, answered.2 = .error failure)

namespace Builds

variable {allowed : Prop} {answered : Kernel × Except Failure Reply}

/-- A handle is answered exactly if the text is allowed. -/
theorem made_iff (builds : kernel.Builds text allowed answered) :
    (∃ handle, answered.2 = .ok (.handle handle)) ↔ allowed := by
  obtain ⟨granted, handle, made, _⟩ | ⟨refused, failure, failed⟩ := builds.verdict
  · exact ⟨fun _ => granted, fun _ => ⟨handle, made⟩⟩
  · refine ⟨?_, fun granted => absurd granted refused⟩
    rintro ⟨handle, made⟩
    cases made.symm.trans failed

/-- A failure is answered exactly if the text is not allowed. -/
theorem failed_iff (builds : kernel.Builds text allowed answered) :
    (∃ failure, answered.2 = .error failure) ↔ ¬ allowed := by
  obtain ⟨granted, handle, made, _⟩ | ⟨refused, failure, failed⟩ := builds.verdict
  · refine ⟨?_, fun refused => absurd granted refused⟩
    rintro ⟨failure, failed⟩
    cases made.symm.trans failed
  · exact ⟨fun _ => refused, fun _ => ⟨failure, failed⟩⟩

/-- Asking for the bytes of the handle that was answered gives the text. -/
theorem bytes (builds : kernel.Builds text allowed answered) {handle : Int}
    (made : answered.2 = .ok (.handle handle)) :
    (answered.1.step (.stringBytes handle)).2.result = .ok (.bytes text) := by
  rw [← text?_iff_answered]
  obtain ⟨_, answeredHandle, madeToo, there⟩ | ⟨_, failure, failed⟩ := builds.verdict
  · cases made.symm.trans madeToo
    exact there
  · cases made.symm.trans failed

end Builds

/-- After a handle was answered the rest is done with it. -/
theorem afterHandle_made {answered : Kernel × Except Failure Reply}
    {following : Kernel → Int → Kernel × Except Failure Reply} {part : Int}
    (made : answered.2 = .ok (.handle part)) :
    afterHandle answered following = following answered.1 part := by
  obtain ⟨next, result⟩ := answered
  cases made
  rfl

/-- A handle is answered in the end only if one was answered first. -/
theorem afterHandle_made_iff {answered : Kernel × Except Failure Reply}
    {following : Kernel → Int → Kernel × Except Failure Reply} {handle : Int} :
    (afterHandle answered following).2 = .ok (.handle handle) ↔
      ∃ part, answered.2 = .ok (.handle part) ∧
        (following answered.1 part).2 = .ok (.handle handle) := by
  constructor
  · intro made
    unfold afterHandle at made
    split at made
    · next next part => exact ⟨part, rfl, made⟩
    · next other => exact (other answered.1 handle (Prod.ext rfl made)).elim
  · rintro ⟨part, partMade, made⟩
    rw [afterHandle_made partMade]
    exact made

/-- An operation later on makes its text, if the settings allow that. -/
theorem builds_answer {later : Kernel} (outlives : kernel.Outlives later)
    (built : later.built? operation = some text) (makes : operation.makesString = true) :
    kernel.Builds text (kernel.settings.allowsText operation.joins text = true)
      (later.answer operation) := by
  refine ⟨outlives.trans (outlives_step later operation), ?_⟩
  rw [← outlives.settings]
  obtain made | ⟨refused, failed⟩ := step_text_cases built makes
  · exact .inl made
  · refine .inr ⟨?_, failed⟩
    rw [refused]
    exact Bool.false_ne_true

/-- What was built from a later kernel was built from the earlier one. -/
theorem Builds.earlier {later : Kernel} {allowed : Prop} {answered : Kernel × Except Failure Reply}
    (builds : later.Builds text allowed answered) (outlives : kernel.Outlives later) :
    kernel.Builds text allowed answered :=
  ⟨outlives.trans builds.outlives, builds.verdict⟩

/-- Going on with a text that was built builds the whole text, if going on does and the
whole is allowed only if the text is. -/
theorem Builds.afterHandle {whole : Bytes} {allowed wholeAllowed : Prop}
    {answered : Kernel × Except Failure Reply}
    {following : Kernel → Int → Kernel × Except Failure Reply}
    (builds : kernel.Builds text allowed answered) (necessary : wholeAllowed → allowed)
    (goesOn : ∀ next handle, kernel.Outlives next → next.text? handle = some text →
      kernel.Builds whole wholeAllowed (following next handle)) :
    kernel.Builds whole wholeAllowed (Kernel.afterHandle answered following) := by
  obtain ⟨next, result⟩ := answered
  obtain ⟨outlives, ⟨_, handle, made, there⟩ | ⟨refused, failure, failed⟩⟩ := builds
  · cases made
    exact goesOn next handle outlives there
  · cases failed
    exact ⟨outlives, .inr ⟨fun whole => refused (necessary whole), failure, rfl⟩⟩

end Kernel

namespace Part

variable {kernel later : Kernel}

/-- A part that is there stays there. -/
theorem Live.outlived {part : Part} (live : part.Live kernel) (outlives : kernel.Outlives later) :
    part.Live later := by
  cases part with
  | stored handle =>
    obtain ⟨text, there⟩ := live
    exact ⟨text, outlives.texts handle text there⟩
  | buffer data => trivial

/-- A part that is there keeps its bytes. -/
theorem Live.bytes_eq {part : Part} (live : part.Live kernel)
    (outlives : kernel.Outlives later) : part.bytes later = part.bytes kernel := by
  cases part with
  | stored handle =>
    obtain ⟨text, there⟩ := live
    simp only [bytes, there, outlives.texts handle text there]
  | buffer data => rfl

end Part

namespace Grouping

/-- The parts in order. -/
def parts : Grouping → List Part
  | stored handle => [.stored handle]
  | made data => [.buffer data]
  | added front data => front.parts ++ [.buffer data]
  | joined front back => front.parts ++ back.parts

/-- The parts one after the other. -/
def text (kernel : Kernel) (grouping : Grouping) : Bytes :=
  grouping.parts.flatMap (Part.bytes kernel)

/-- Whether there is something to join. -/
def joins : Grouping → Bool
  | stored _ | made _ => false
  | added .. | joined .. => true

/-- Do the operations of a grouping, the front before the back, up to the first that
fails. -/
def perform (kernel : Kernel) : Grouping → Kernel × Except Failure Reply
  | stored handle => (kernel, .ok (.handle handle))
  | made data => kernel.answer (.stringNew data)
  | added front data =>
    Kernel.afterHandle (front.perform kernel) fun next handle =>
      next.answer (.stringAdd handle data)
  | joined front back =>
    Kernel.afterHandle (front.perform kernel) fun next first =>
      Kernel.afterHandle (back.perform next) fun later second =>
        later.answer (.stringConcat first second)

/-- Whether the settings allow the text of a grouping; a string that is there already is
allowed. -/
def Allowed (kernel : Kernel) (grouping : Grouping) : Prop :=
  match grouping with
  | stored _ => True
  | made _ | added .. | joined .. =>
    kernel.settings.allowsText grouping.joins (grouping.text kernel) = true

variable {kernel : Kernel} {grouping : Grouping}

/-- The text of a string that is there is what its handle names. -/
theorem text_stored {handle : Int} {text : Bytes} (there : kernel.text? handle = some text) :
    (stored handle).text kernel = text := by
  simp [Grouping.text, parts, Part.bytes, there]

@[simp] theorem text_made (kernel : Kernel) (data : Bytes) :
    (made data).text kernel = terminated data := by
  simp [text, parts, Part.bytes]

@[simp] theorem text_added (kernel : Kernel) (front : Grouping) (data : Bytes) :
    (added front data).text kernel = front.text kernel ++ terminated data := by
  simp [text, parts, Part.bytes]

@[simp] theorem text_joined (kernel : Kernel) (front back : Grouping) :
    (joined front back).text kernel = front.text kernel ++ back.text kernel := by
  simp [text, parts]

/-- A text is allowed if one that is not shorter may come of joining. -/
theorem allowed_of_longer {whole : Bytes}
    (allowed : kernel.settings.allowsText true whole = true)
    (shorter : (grouping.text kernel).length ≤ whole.length) : grouping.Allowed kernel := by
  obtain ⟨within, fits⟩ := (Settings.allowsText_iff _ _ _).mp allowed
  have longest := within rfl
  unfold Allowed
  split
  · trivial
  all_goals
    rw [Settings.allowsText_iff]
    exact ⟨fun _ => by omega, by omega⟩

/-- A text that comes of joining is allowed if it is neither longer than a positive limit
nor than the longest string. -/
theorem allowed_iff_of_joins (joins : grouping.joins = true) :
    grouping.Allowed kernel ↔
      ¬ ((kernel.settings.stringLimit > 0 ∧
          ((grouping.text kernel).length : Int) > kernel.settings.stringLimit) ∨
        ((grouping.text kernel).length : Int) > ByteString.maxLength) := by
  cases grouping with
  | stored | made => cases joins
  | added | joined =>
    unfold Allowed
    rw [Settings.allowsText_iff, not_or, Int.not_lt, and_comm]
    exact and_congr_right fun _ => ⟨fun within => within rfl, fun within _ => within⟩

/-- Under a positive limit that is not beyond the longest string the limit alone decides,
because strings that are there already are within it. -/
theorem allowed_iff_of_limit (clean : kernel.StringsClean)
    (live : ∀ part ∈ grouping.parts, part.Live kernel)
    (limited : kernel.settings.stringLimit > 0)
    (longest : kernel.settings.stringLimit ≤ ByteString.maxLength) :
    grouping.Allowed kernel ↔
      ¬ ((grouping.text kernel).length : Int) > kernel.settings.stringLimit := by
  cases grouping with
  | stored handle =>
    obtain ⟨text, there⟩ := live (.stored handle) (List.mem_singleton_self _)
    have within := (clean ⟨text⟩ (Kernel.string_mem_of_text? there)).2 limited
    rw [text_stored there]
    exact ⟨fun _ => Int.not_lt.mpr within, fun _ => trivial⟩
  | made data =>
    unfold Allowed
    rw [Settings.allowsText_iff]
    simp [joins, limited]
  | added | joined =>
    rw [allowed_iff_of_joins rfl]
    omega

/-- Later the text of a grouping is the same, if all parts are there. -/
theorem text_outlived {later : Kernel} (live : ∀ part ∈ grouping.parts, part.Live kernel)
    (outlives : kernel.Outlives later) : grouping.text later = grouping.text kernel := by
  unfold text
  rw [List.flatMap_def, List.flatMap_def]
  congr 1
  apply List.map_congr_left
  intro part member
  exact (live part member).bytes_eq outlives

/-- Later the text of a grouping is allowed exactly if it was before, if all parts
are there. -/
theorem allowed_outlived {later : Kernel} (live : ∀ part ∈ grouping.parts, part.Live kernel)
    (outlives : kernel.Outlives later) : grouping.Allowed later ↔ grouping.Allowed kernel := by
  unfold Allowed
  rw [text_outlived live outlives, outlives.settings]

/-- Doing a grouping whose parts are there makes its text, if that is allowed, and fails
otherwise.

Induct over the grouping. A part of the text that is refused is shorter than the whole,
which then is refused as well; after parts that are made, the last operation decides. -/
theorem builds_perform (grouping : Grouping) (kernel : Kernel)
    (live : ∀ part ∈ grouping.parts, part.Live kernel) :
    kernel.Builds (grouping.text kernel) (grouping.Allowed kernel) (grouping.perform kernel) := by
  induction grouping generalizing kernel with
  | stored handle =>
    obtain ⟨text, there⟩ := live (.stored handle) (List.mem_singleton_self _)
    rw [text_stored there]
    exact ⟨.refl kernel, .inl ⟨trivial, handle, rfl, there⟩⟩
  | made data =>
    have built : kernel.built? (.stringNew data) = some (terminated data) := rfl
    unfold Allowed
    rw [text_made]
    exact Kernel.builds_answer (.refl kernel) built rfl
  | added front data inductionHypothesis =>
    have frontLive : ∀ part ∈ front.parts, part.Live kernel :=
      fun part member => live part (by simp [parts, member])
    refine (inductionHypothesis kernel frontLive).afterHandle
      (fun allowed => allowed_of_longer allowed (by simp)) ?_
    intro next handle outlives there
    have built : next.built? (.stringAdd handle data) =
        some (front.text kernel ++ terminated data) := by
      simp [Kernel.built?, there]
    unfold Allowed
    rw [text_added]
    exact Kernel.builds_answer outlives built rfl
  | joined front back frontHypothesis backHypothesis =>
    have frontLive : ∀ part ∈ front.parts, part.Live kernel :=
      fun part member => live part (by simp [parts, member])
    have backLive : ∀ part ∈ back.parts, part.Live kernel :=
      fun part member => live part (by simp [parts, member])
    refine (frontHypothesis kernel frontLive).afterHandle
      (fun allowed => allowed_of_longer allowed (by simp)) ?_
    intro next first outlives there
    have backBuilt :=
      backHypothesis next fun part member => (backLive part member).outlived outlives
    rw [text_outlived backLive outlives, allowed_outlived backLive outlives] at backBuilt
    refine (backBuilt.afterHandle (fun allowed => allowed_of_longer allowed (by simp)) ?_).earlier
      outlives
    intro later second outlivesToo thereToo
    have built : later.built? (.stringConcat first second) =
        some (front.text kernel ++ back.text kernel) := by
      simp [Kernel.built?, outlivesToo.texts first _ there, thereToo]
    rw [text_joined, ← outlives.settings]
    exact Kernel.builds_answer outlivesToo built rfl

end Grouping

namespace Kernel

/-- Adding a buffer to a string builds the text of both, if joins may be that long. -/
theorem builds_added (kernel : Kernel) {handle : Int} {text : Bytes} (data : Bytes)
    (there : kernel.text? handle = some text) :
    kernel.Builds (text ++ terminated data)
      (kernel.settings.allowsText true (text ++ terminated data) = true)
      (kernel.answer (.stringAdd handle data)) := by
  have built : kernel.built? (.stringAdd handle data) = some (text ++ terminated data) := by
    simp [built?, there]
  exact builds_answer (.refl kernel) built rfl

/-- Making a string of the buffer first and then joining the two builds the text of
both, although the buffer alone is checked on the way. -/
theorem builds_joined (kernel : Kernel) {handle : Int} {text : Bytes} (data : Bytes)
    (there : kernel.text? handle = some text) :
    kernel.Builds (text ++ terminated data)
      (kernel.settings.allowsText true (text ++ terminated data) = true)
      (afterHandle (kernel.answer (.stringNew data)) fun next part =>
        next.answer (.stringConcat handle part)) := by
  have live : ∀ part ∈ (Grouping.joined (.stored handle) (.made data)).parts, part.Live kernel := by
    simp [Grouping.parts, Part.Live, there]
  have built := Grouping.builds_perform _ kernel live
  unfold Grouping.Allowed at built
  rw [Grouping.text_joined, Grouping.text_stored there, Grouping.text_made] at built
  exact built

/-- **Joins in whichever grouping.** Take the kernel that any operations have led to.

* Adding a buffer to a string succeeds exactly if making a string of the buffer and then
  joining the two does, and both ways answer with strings of the same bytes.
* A text put together in any grouping, of strings that are there and of buffers, holds
  its parts one after the other, each buffer cut at its first NUL byte.
* A grouping that joins anything fails exactly if the whole text is longer than a positive
  limit, or than the longest string. Under a positive limit that is not beyond the longest
  string every grouping fails exactly if the whole text is longer than the limit. What does
  not fail answers with a handle. -/
theorem groupings_join_alike (settings : Settings) (metrics : Option Metrics)
    (before : List Operation) :
    let kernel := ((start settings metrics).run before).1
    (∀ handle text data,
      (kernel.step (.stringBytes handle)).2.result = .ok (.bytes text) →
      let added := kernel.answer (.stringAdd handle data)
      let made := kernel.answer (.stringNew data)
      let joined := fun part => made.1.answer (.stringConcat handle part)
      ((∃ sum, added.2 = .ok (.handle sum)) ↔
        ∃ part, made.2 = .ok (.handle part) ∧ ∃ sum, (joined part).2 = .ok (.handle sum)) ∧
      ∀ sum part whole, added.2 = .ok (.handle sum) → made.2 = .ok (.handle part) →
        (joined part).2 = .ok (.handle whole) →
        (added.1.step (.stringBytes sum)).2.result = .ok (.bytes (text ++ terminated data)) ∧
        ((joined part).1.step (.stringBytes whole)).2.result =
          .ok (.bytes (text ++ terminated data))) ∧
    ∀ grouping : Grouping, (∀ part ∈ grouping.parts, part.Live kernel) →
      let whole := grouping.parts.flatMap (Part.bytes kernel)
      let performed := grouping.perform kernel
      let fails := ∃ failure, performed.2 = .error failure
      (∀ handle, performed.2 = .ok (.handle handle) →
        (performed.1.step (.stringBytes handle)).2.result = .ok (.bytes whole)) ∧
      (¬ fails → ∃ handle, performed.2 = .ok (.handle handle)) ∧
      (grouping.joins = true →
        (fails ↔ (settings.stringLimit > 0 ∧ (whole.length : Int) > settings.stringLimit) ∨
          (whole.length : Int) > ByteString.maxLength)) ∧
      (settings.stringLimit > 0 → settings.stringLimit ≤ ByteString.maxLength →
        (fails ↔ (whole.length : Int) > settings.stringLimit)) := by
  intro kernel
  have told : kernel.settings = settings.effective := settings_run _ _
  refine ⟨?routes, ?groupings⟩
  case routes =>
    intro handle text data answered added made joined
    have there := (text?_iff_answered kernel handle text).mpr answered
    have adds := kernel.builds_added data there
    have joins := kernel.builds_joined data there
    refine ⟨?_, ?_⟩
    · rw [adds.made_iff, ← joins.made_iff]
      simp only [afterHandle_made_iff]
      constructor
      · rintro ⟨sum, part, partMade, whole⟩
        exact ⟨part, partMade, sum, whole⟩
      · rintro ⟨part, partMade, sum, whole⟩
        exact ⟨sum, part, partMade, whole⟩
    · intro sum part whole sumMade partMade wholeMade
      rw [afterHandle_made partMade] at joins
      exact ⟨adds.bytes sumMade, joins.bytes wholeMade⟩
  case groupings =>
    intro grouping live whole performed fails
    have builds := grouping.builds_perform kernel live
    refine ⟨fun handle made => builds.bytes made, ?_, ?_, ?_⟩
    · intro succeeds
      rw [builds.made_iff]
      exact Classical.not_not.mp (mt builds.failed_iff.mpr succeeds)
    · intro joins
      refine builds.failed_iff.trans ?_
      rw [Grouping.allowed_iff_of_joins joins, Classical.not_not, told]
      exact Iff.rfl
    · intro limited longest
      refine builds.failed_iff.trans ?_
      rw [Grouping.allowed_iff_of_limit (stringsClean_run settings metrics before) live
        (told ▸ limited) (told ▸ longest), Classical.not_not, told]
      exact Iff.rfl

/-- Three parts under a limit of five. From the left by adding and from the right by joining
the text is the same, and one byte more is refused both ways, although the back alone would
be short enough. -/
theorem right_grouping_like_left :
    let settings : Settings := { stringLimit := 5, policy := .error }
    let kernel := ((start settings none).run [.stringNew [97, 98, 0, 99]]).1
    let left : Bytes → Grouping := fun data => .added (.added (.stored 1) [99, 0, 1]) data
    let right : Bytes → Grouping := fun data =>
      .joined (.stored 1) (.joined (.made [99, 0, 1]) (.made data))
    (∀ grouping ∈ [left [100, 101], right [100, 101]],
      ∃ handle, (grouping.perform kernel).2 = .ok (.handle handle) ∧
        ((grouping.perform kernel).1.step (.stringBytes handle)).2.result =
          .ok (.bytes [97, 98, 99, 100, 101])) ∧
    (∀ grouping ∈ [left [100, 101, 102], right [100, 101, 102]],
      ∃ failure, (grouping.perform kernel).2 = .error failure) ∧
    ∃ part, (kernel.answer (.stringNew [99, 0, 1])).2 = .ok (.handle part) ∧ ∃ sum,
      ((kernel.answer (.stringNew [99, 0, 1])).1.answer (.stringConcat 1 part)).2 =
        .ok (.handle sum) := by
  intro settings kernel left right
  obtain ⟨routes, groupings⟩ :=
    groupings_join_alike settings none [.stringNew [97, 98, 0, 99]]
  have there : ∃ text, kernel.text? 1 = some text := ⟨[97, 98], by decide⟩
  have live : ∀ data, ∀ part ∈ [Part.stored 1, .buffer [99, 0, 1], .buffer data],
      part.Live kernel := by
    intro data part member
    simp only [List.mem_cons, List.not_mem_nil, or_false] at member
    obtain rfl | rfl | rfl := member
    · exact there
    · trivial
    · trivial
  have same : ∀ data, ∀ grouping ∈ [left data, right data],
      grouping.parts = [.stored 1, .buffer [99, 0, 1], .buffer data] := by
    intro data grouping member
    simp only [List.mem_cons, List.not_mem_nil, or_false] at member
    obtain rfl | rfl := member <;> rfl
  refine ⟨?_, ?_, ?_⟩
  · intro grouping member
    have parts := same [100, 101] grouping member
    obtain ⟨bytes, made, _, failsIff⟩ := groupings grouping (parts ▸ live [100, 101])
    rw [parts] at bytes failsIff
    obtain ⟨handle, answered⟩ :=
      made fun fails => absurd ((failsIff (by decide) (by decide)).mp fails) (by decide)
    exact ⟨handle, answered, bytes handle answered⟩
  · intro grouping member
    have parts := same [100, 101, 102] grouping member
    obtain ⟨_, _, _, failsIff⟩ := groupings grouping (parts ▸ live [100, 101, 102])
    rw [parts] at failsIff
    exact (failsIff (by decide) (by decide)).mpr (by decide)
  · exact (routes 1 [97, 98] [99, 0, 1] rfl).1.mp ⟨2, rfl⟩

end Kernel

end ContainerKernel
