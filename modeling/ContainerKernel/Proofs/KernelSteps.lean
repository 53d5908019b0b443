import ContainerKernel.Kernel
import ContainerKernel.Proofs.Containers

/-!
# What one operation does to the containers

Every law about runs of a kernel rests on the cases of a single operation. An
operation that succeeds reads, makes a list, makes a string or appends to one
list; `Done` says what the kernel and the reply are in each of these cases.
`Misused` lists the ways to fail, with the fault and the diagnostic of each, and
`step_cases` says that an operation is done or reported as a misuse.

Seen from one live handle the same facts become an equation: `Container.after`
gives what an operation leaves of the container, and `container?_step` and
`container?_run` say that this is what the handle names afterwards. Whatever the
other handles are, and whether or not the operation failed, is not part of that
equation; this is the frame condition of all later laws.

Of the counters only this is said here: what is counted about containers neither
reads nor changes what is counted about faults. The log, the printed text and the
exits are not treated here.
-/

/-- A sequence of two computations succeeds through a value of the first. -/
theorem Except.bind_ok {ε α β : Type} {first : Except ε α} {following : α → Except ε β}
    {result : β} (succeeded : (first >>= following) = .ok result) :
    ∃ value, first = .ok value ∧ following value = .ok result := by
  cases first with
  | error cause => cases succeeded
  | ok value => exact ⟨value, rfl, succeeded⟩

/-- A sequence of two computations fails in the first or, after it, in the
second. -/
theorem Except.bind_error {ε α β : Type} {first : Except ε α} {following : α → Except ε β}
    {cause : ε} (failed : (first >>= following) = .error cause) :
    first = .error cause ∨ ∃ value, first = .ok value ∧ following value = .error cause := by
  cases first with
  | error cause =>
    cases failed
    exact .inl rfl
  | ok value => exact .inr ⟨value, rfl, failed⟩

namespace ContainerKernel

/-- What a caller is told about a fault: the fault itself, or under the abort
policy the exit signal with the fault behind it. -/
def Settings.failure (settings : Settings) (fault : Fault) : Failure :=
  if settings.policy = .abort then .joined (.exit settings.exitCode) (.fault fault)
  else .fault fault

/-- What a misuse leaves outside the kernel: a log line, and under the abort
policy the printed diagnostic and the exit as well. -/
def Settings.traces (settings : Settings) (misuse : Misuse) : Effects :=
  if settings.policy = .abort then
    ⟨misuse.diagnostic ++ utf8 "\n", [settings.faultLine misuse], [settings.exitCode]⟩
  else ⟨[], [settings.faultLine misuse], []⟩

/-- Effects one after another are joined part by part. -/
theorem Effects.append_eq (first second : Effects) :
    first ++ second =
      ⟨first.stderr ++ second.stderr, first.log ++ second.log, first.exits ++ second.exits⟩ :=
  rfl

@[simp] theorem Effects.append_empty (effects : Effects) : effects ++ ({} : Effects) = effects := by
  obtain ⟨stderr, log, exits⟩ := effects
  simp only [Effects.append_eq, List.append_nil]

@[simp] theorem Effects.stderr_append (first second : Effects) :
    (first ++ second).stderr = first.stderr ++ second.stderr := rfl

@[simp] theorem Effects.log_append (first second : Effects) :
    (first ++ second).log = first.log ++ second.log := rfl

@[simp] theorem Effects.exits_append (first second : Effects) :
    (first ++ second).exits = first.exits ++ second.exits := rfl

/-- Whether the caller was told of a failure. -/
def Outcome.failed (outcome : Outcome) : Bool :=
  match outcome.result with
  | .ok _ => false
  | .error _ => true

/-- Whether an operation only looks at a container. -/
def Operation.reads : Operation → Bool
  | .listAt .. | .listLength _ | .listItems _ => true
  | .stringLength _ | .stringAt .. | .stringBytes _ => true
  | _ => false

/-- The handle that an operation needs to name a list. -/
def Operation.listHandle? : Operation → Option Int
  | .listAppend handle _ | .listAt handle _ | .listLength handle | .listItems handle => some handle
  | _ => none

/-- The handles that an operation needs to name strings, in the order in which
it looks them up. -/
def Operation.stringHandles : Operation → List Int
  | .stringAdd handle _ | .stringLength handle | .stringAt handle _ => [handle]
  | .stringBytes handle => [handle]
  | .stringConcat handle suffix => [handle, suffix]
  | _ => []

/-- What an operation leaves of the container with the given handle. Only an
append to that very handle has an effect on it, and only on a list. -/
def Container.after (handle : Int) (contents : Container) (operation : Operation) : Container :=
  match operation, contents with
  | .listAppend target value, .list items =>
    if target = handle then .list (items.appended (value.getD .nil)) else .list items
  | _, contents => contents

/-- Everything but an append to the handle leaves its container alone. -/
theorem Container.after_other {handle : Int} {operation : Operation} (contents : Container)
    (apart : ∀ value, operation ≠ .listAppend handle value) :
    contents.after handle operation = contents := by
  unfold Container.after
  split
  · next target value items =>
    have different : target ≠ handle := by
      intro same
      exact apart value (same ▸ rfl)
    rw [if_neg different]
  · rfl

/-- No operation changes a string. -/
@[simp] theorem Container.after_string (handle : Int) (text : ByteString) (operation : Operation) :
    (Container.string text).after handle operation = .string text := by
  unfold Container.after
  split
  · next impossible => cases impossible
  · rfl

/-! ## Counting what containers do -/

/-- The counters with those of faults replaced. -/
def Metrics.withFaults (metrics : Metrics) (faults : List (Bytes × Counter)) : Metrics :=
  { metrics with faults }

/-- Counting a string neither reads nor changes the counters of faults. -/
theorem Metrics.observeString_withFaults (metrics : Metrics) (faults : List (Bytes × Counter))
    (size : Int) :
    ((metrics.withFaults faults).observeString size).1 =
      (metrics.observeString size).1.withFaults faults := by
  unfold Metrics.observeString Metrics.withFaults
  dsimp only
  split <;> rfl

/-- Counting an event of a list's buffer neither reads nor changes the counters of
faults. -/
theorem Metrics.observeListEvent_withFaults (metrics : Metrics)
    (faults : List (Bytes × Counter)) (event : ListEvent) :
    (metrics.withFaults faults).observeListEvent event =
      (metrics.observeListEvent event).withFaults faults := by
  cases event with
  | appended => rfl
  | grew oldCapacity newCapacity =>
    unfold Metrics.observeListEvent Metrics.observeGrow Metrics.withFaults
    dsimp only
    split <;> rfl

/-- Counting events of a list's buffer one after another neither reads nor changes
the counters of faults. -/
theorem Metrics.foldl_withFaults (metrics : Metrics) (faults : List (Bytes × Counter))
    (events : List ListEvent) :
    events.foldl Metrics.observeListEvent (metrics.withFaults faults) =
      (events.foldl Metrics.observeListEvent metrics).withFaults faults := by
  induction events generalizing metrics with
  | nil => rfl
  | cons event rest inductionHypothesis =>
    rw [List.foldl_cons, List.foldl_cons, Metrics.observeListEvent_withFaults,
      inductionHypothesis]

namespace Kernel

variable {kernel next : Kernel} {operation : Operation} {handle : Int}

/-- The bytes of the string with the given handle, where there is one. -/
def text? (kernel : Kernel) (handle : Int) : Option Bytes :=
  match kernel.container? handle with
  | some (.string text) => some text.bytes
  | _ => none

/-- The bytes of the string that an operation is to make: there are none when
the operation makes no string or an operand is not there. Limits play no part. -/
def built? (kernel : Kernel) : Operation → Option Bytes
  | .stringNew data => some (terminated data)
  | .stringAdd handle suffix => (kernel.text? handle).map (· ++ terminated suffix)
  | .stringConcat handle suffix =>
    (kernel.text? handle).bind fun text => (kernel.text? suffix).map (text ++ ·)
  | _ => none

/-! ## The table of containers -/

/-- A list is found exactly at the handles that name one. -/
theorem list_ok_iff (kernel : Kernel) (handle : Int) (contents : DynamicList Value) :
    kernel.list handle = .ok contents ↔ kernel.container? handle = some (.list contents) := by
  unfold list
  split
  · next found => simp [found]
  · next absent => simpa using absent contents

/-- A string is found exactly at the handles that name one. -/
theorem string_ok_iff (kernel : Kernel) (handle : Int) (text : ByteString) :
    kernel.string handle = .ok text ↔ kernel.container? handle = some (.string text) := by
  unfold string
  split
  · next found => simp [found]
  · next absent => simpa using absent text

/-- The bytes of a handle are those of the string that it names. -/
theorem text?_eq_some_iff (kernel : Kernel) (handle : Int) (bytes : Bytes) :
    kernel.text? handle = some bytes ↔ kernel.container? handle = some (.string ⟨bytes⟩) := by
  unfold text?
  split
  · next text found =>
    rw [found]
    constructor
    · intro same
      cases same
      rfl
    · intro same
      cases same
      rfl
  · next absent => simpa using absent ⟨bytes⟩

/-- A string that is found is one whose bytes the handle has. -/
theorem text?_of_string {text : ByteString} (found : kernel.string handle = .ok text) :
    kernel.text? handle = some text.bytes :=
  (text?_eq_some_iff kernel handle text.bytes).mpr ((string_ok_iff kernel handle text).mp found)

/-- A live handle is a place in the table. -/
theorem getElem?_of_live {contents : Container} (live : kernel.container? handle = some contents) :
    kernel.containers[handle.toNat - 1]? = some contents := by
  unfold container? at live
  split at live
  · cases live
  · exact live

/-- One container more is found at the next handle and at no other. -/
theorem container?_add (kernel : Kernel) (added : Container) (handle : Int) :
    (kernel.add added).1.container? handle =
      if handle = kernel.containers.size + 1 then some added else kernel.container? handle := by
  unfold container? add
  by_cases low : handle < 1
  · rw [if_pos low, if_pos low, if_neg (by omega)]
  · rw [if_neg low, if_neg low, Array.getElem?_push]
    by_cases next : handle = kernel.containers.size + 1
    · rw [if_pos next, if_pos (by omega)]
    · rw [if_neg next, if_neg (by omega)]

/-- The next handle names nothing yet. -/
theorem container?_next (kernel : Kernel) :
    kernel.container? (kernel.containers.size + 1) = none := by
  have positive : ¬ ((kernel.containers.size : Int) + 1 < 1) := by omega
  simp [container?, positive]

/-- A new container is what its own handle names. -/
theorem container?_add_new (kernel : Kernel) (contents : Container) :
    (kernel.add contents).1.container? (kernel.add contents).2 = some contents := by
  rw [container?_add]
  exact if_pos rfl

/-- A new container is put behind the others, which keep their handles. -/
theorem container?_add_old (added : Container) {contents : Container}
    (live : kernel.container? handle = some contents) :
    (kernel.add added).1.container? handle = some contents := by
  have old : handle ≠ kernel.containers.size + 1 := by
    rintro rfl
    rw [container?_next] at live
    cases live
  rw [container?_add, if_neg old, live]

/-- Replacing a list is seen at its own handle and nowhere else. -/
theorem container?_setList (target : Int) {old grown : DynamicList Value}
    (live : kernel.container? target = some (.list old)) :
    (kernel.setList target grown).container? handle =
      if handle = target then some (.list grown) else kernel.container? handle := by
  unfold container? at live ⊢
  split at live
  · cases live
  · next positive =>
    obtain ⟨inside, _⟩ := Array.getElem?_eq_some_iff.mp live
    by_cases same : handle = target
    · subst same
      simp [setList, positive, inside]
    · simp only [same, if_false, setList]
      split
      · rfl
      · next other =>
        have apart : target.toNat - 1 ≠ handle.toNat - 1 := by omega
        rw [Array.getElem?_setIfInBounds_ne apart]

@[simp] theorem container?_observe (kernel : Kernel) (count : Metrics → Metrics) (handle : Int) :
    (kernel.observe count).container? handle = kernel.container? handle := rfl

@[simp] theorem settings_add (kernel : Kernel) (contents : Container) :
    (kernel.add contents).1.settings = kernel.settings := rfl

@[simp] theorem settings_setList (kernel : Kernel) (target : Int) (grown : DynamicList Value) :
    (kernel.setList target grown).settings = kernel.settings := rfl

@[simp] theorem settings_observe (kernel : Kernel) (count : Metrics → Metrics) :
    (kernel.observe count).settings = kernel.settings := rfl

/-! ## The cases of one operation -/

/-- The four ways in which an operation succeeds, with the kernel and the reply
that come of it. A read says nothing about its reply here: what it answers is
the subject of the laws about lists and strings. -/
inductive Done (kernel : Kernel) : Operation → Kernel → Reply → Prop where
  | read {operation : Operation} (reply : Reply) (reads : operation.reads = true) :
      Done kernel operation kernel reply
  | listMade :
      Done kernel .listNew (kernel.add (.list kernel.newList)).1
        (.handle (kernel.add (.list kernel.newList)).2)
  | stringMade {operation : Operation} (text : ByteString)
      (built : kernel.built? operation = some text.bytes)
      (fits : ¬ (kernel.settings.stringLimit > 0 ∧
        (text.length : Int) > kernel.settings.stringLimit)) :
      Done kernel operation
        ((kernel.add (.string text)).1.observe fun metrics =>
          (metrics.observeString text.length).1)
        (.handle (kernel.add (.string text)).2)
  | appended (handle : Int) (value : Option Value) {contents grown : DynamicList Value}
      {events : List ListEvent} (live : kernel.container? handle = some (.list contents))
      (grew : contents.append (value.getD .nil) = .ok (grown, events)) :
      Done kernel (.listAppend handle value)
        ((kernel.observe fun metrics => events.foldl Metrics.observeListEvent metrics).setList
          handle grown) .done

/-- A string that is longer than a positive limit of the settings is refused. -/
theorem store_refused {text : ByteString} (tooLong : kernel.settings.stringLimit > 0 ∧
      (text.length : Int) > kernel.settings.stringLimit) :
    kernel.store text =
      .error ⟨.allocation, .allocation (utf8 "string") text.length kernel.settings.stringLimit,
        utf8 "Cannot allocate string of " ++ decimal text.length ++ utf8 " bytes!"⟩ :=
  if_pos tooLong

/-- A string within the limit of the settings is added to the containers and
counted. -/
theorem store_accepted {text : ByteString} (fits : ¬ (kernel.settings.stringLimit > 0 ∧
      (text.length : Int) > kernel.settings.stringLimit)) :
    kernel.store text =
      .ok ((kernel.add (.string text)).1.observe fun metrics =>
        (metrics.observeString text.length).1, .handle (kernel.add (.string text)).2) :=
  if_neg fits

/-- A stored string fits the settings, and storing it adds and counts it. -/
theorem store_ok {text : ByteString} {reply : Reply}
    (stored : kernel.store text = .ok (next, reply)) :
    ¬ (kernel.settings.stringLimit > 0 ∧ (text.length : Int) > kernel.settings.stringLimit) ∧
      ((kernel.add (.string text)).1.observe fun metrics =>
        (metrics.observeString text.length).1) = next ∧
      Reply.handle (kernel.add (.string text)).2 = reply := by
  by_cases tooLong : kernel.settings.stringLimit > 0 ∧
      (text.length : Int) > kernel.settings.stringLimit
  · rw [store_refused tooLong] at stored
    cases stored
  · rw [store_accepted tooLong] at stored
    cases stored
    exact ⟨tooLong, rfl, rfl⟩

/-- The outcome of a join is stored only if the join was not refused. -/
theorem storeJoined_ok {joined : Except Fault ByteString} {reply : Reply}
    (stored : kernel.storeJoined joined = .ok (next, reply)) :
    ∃ text, joined = .ok text ∧ kernel.store text = .ok (next, reply) := by
  cases joined with
  | error fault => cases stored
  | ok text => exact ⟨text, rfl, stored⟩

/-- A join of a live string with a suffix makes a string in the sense of `Done`. -/
theorem done_of_extend {text : ByteString} {suffix : Bytes} {reply : Reply}
    (stored : kernel.storeJoined (text.extend suffix) = .ok (next, reply))
    (built : kernel.built? operation = some (text.bytes ++ suffix)) :
    Done kernel operation next reply := by
  obtain ⟨joined, extended, kept⟩ := storeJoined_ok stored
  obtain ⟨fits, rfl, rfl⟩ := store_ok kept
  refine .stringMade joined ?_ fits
  rw [built, ByteString.extend_ok extended]

/-- Every operation that succeeds does so in one of the ways of `Done`. -/
theorem attempt_done {reply : Reply} (succeeded : kernel.attempt operation = .ok (next, reply)) :
    Done kernel operation next reply := by
  cases operation with
  | listNew =>
    cases succeeded
    exact .listMade
  | listAppend handle value =>
    obtain ⟨contents, found, appended⟩ := Except.bind_ok succeeded
    have live := (list_ok_iff kernel handle contents).mp found
    unfold appendTo at appended
    split at appended
    · cases appended
    · next grown events grew =>
      cases appended
      exact .appended handle value live grew
  | listAt handle index =>
    obtain ⟨contents, _, answered⟩ := Except.bind_ok succeeded
    split at answered
    · cases answered
      exact .read _ rfl
    · cases answered
  | listLength handle =>
    obtain ⟨contents, _, answered⟩ := Except.bind_ok succeeded
    cases answered
    exact .read _ rfl
  | listItems handle =>
    obtain ⟨contents, _, answered⟩ := Except.bind_ok succeeded
    cases answered
    exact .read _ rfl
  | stringNew data =>
    obtain ⟨fits, rfl, rfl⟩ := store_ok succeeded
    exact .stringMade (.ofTerminated data) rfl fits
  | stringAdd handle suffix =>
    obtain ⟨text, found, stored⟩ := Except.bind_ok succeeded
    exact done_of_extend stored (by simp [built?, text?_of_string found])
  | stringConcat handle suffix =>
    obtain ⟨text, found, following⟩ := Except.bind_ok succeeded
    obtain ⟨tail, tailFound, stored⟩ := Except.bind_ok following
    exact done_of_extend stored
      (by simp [built?, text?_of_string found, text?_of_string tailFound])
  | stringLength handle =>
    obtain ⟨text, _, answered⟩ := Except.bind_ok succeeded
    cases answered
    exact .read _ rfl
  | stringAt handle index =>
    obtain ⟨text, _, answered⟩ := Except.bind_ok succeeded
    split at answered
    · cases answered
      exact .read _ rfl
    · cases answered
  | stringBytes handle =>
    obtain ⟨text, _, answered⟩ := Except.bind_ok succeeded
    cases answered
    exact .read _ rfl

/-- The ways in which an operation is a misuse, with the fault and the line that
is printed about it. Of several string operands the first that names no string
is reported. A string is too long for the settings or, when it is made by
joining, for any string at all; the latter comes first where both hold. -/
inductive Misused (kernel : Kernel) : Operation → Misuse → Prop where
  | noList {operation : Operation} (handle : Int)
      (needed : operation.listHandle? = some handle)
      (absent : ∀ contents, kernel.container? handle ≠ some (.list contents)) :
      Misused kernel operation ⟨.handle, .handle .list handle,
        utf8 "Invalid list handle " ++ decimal handle ++ utf8 "!"⟩
  | noString {operation : Operation} (handle : Int)
      (needed : operation.stringHandles.find? (fun operand => (kernel.text? operand).isNone) =
        some handle) :
      Misused kernel operation ⟨.handle, .handle .string handle,
        utf8 "Invalid string handle " ++ decimal handle ++ utf8 "!"⟩
  | listFull (handle : Int) (value : Option Value) {contents : DynamicList Value} {fault : Fault}
      (live : kernel.container? handle = some (.list contents))
      (full : (contents.length : Int) ≥ contents.limit)
      (named : fault = .allocation (utf8 "list") (contents.length + 1) contents.limit) :
      Misused kernel (.listAppend handle value) ⟨.allocation, fault,
        utf8 "Cannot append to list " ++ decimal handle ++ utf8 ": " ++ fault.message
          ++ utf8 "!"⟩
  | listIndex (handle index : Int) {contents : DynamicList Value}
      (live : kernel.container? handle = some (.list contents))
      (outside : ¬ (0 ≤ index ∧ index < contents.items.toList.length)) :
      Misused kernel (.listAt handle index)
        ⟨.index, .index (utf8 "list") index contents.items.toList.length,
          utf8 "Cannot get list item at index " ++ decimal index ++ utf8 "!"⟩
  | stringIndex (handle index : Int) {text : Bytes} (live : kernel.text? handle = some text)
      (outside : ¬ (0 ≤ index ∧ index < text.length)) :
      Misused kernel (.stringAt handle index) ⟨.index, .index (utf8 "string") index text.length,
        utf8 "Cannot get string byte at index " ++ decimal index ++ utf8 "!"⟩
  | tooLong {operation : Operation} {text : Bytes} (built : kernel.built? operation = some text)
      (exceeds : kernel.settings.stringLimit > 0 ∧
        (text.length : Int) > kernel.settings.stringLimit) :
      Misused kernel operation
        ⟨.allocation, .allocation (utf8 "string") text.length kernel.settings.stringLimit,
          utf8 "Cannot allocate string of " ++ decimal text.length ++ utf8 " bytes!"⟩
  | tooLongToJoin {operation : Operation} {text : Bytes} {fault : Fault}
      (built : kernel.built? operation = some text)
      (beyond : (text.length : Int) > ByteString.maxLength)
      (named : fault = .allocation (utf8 "string") Word.largest ByteString.maxLength) :
      Misused kernel operation ⟨.allocation, fault,
        utf8 "Cannot allocate string: " ++ fault.message ++ utf8 "!"⟩

/-- Looking for a list fails only at a handle that names none. -/
theorem noList_of_list {misuse : Misuse} (failed : kernel.list handle = .error misuse)
    (needed : operation.listHandle? = some handle) : Misused kernel operation misuse := by
  unfold list at failed
  split at failed
  · cases failed
  · next absent =>
    cases failed
    exact .noList handle needed absent

/-- Looking for a string fails only at a handle that names none, with the misuse
that the handle is the first such operand. -/
theorem string_error {misuse : Misuse} (failed : kernel.string handle = .error misuse) :
    kernel.text? handle = none ∧ misuse = ⟨.handle, .handle .string handle,
      utf8 "Invalid string handle " ++ decimal handle ++ utf8 "!"⟩ := by
  cases live : kernel.text? handle with
  | some bytes =>
    have found := (text?_eq_some_iff kernel handle bytes).mp live
    rw [(string_ok_iff kernel handle ⟨bytes⟩).mpr found] at failed
    cases failed
  | none =>
    refine ⟨rfl, ?_⟩
    unfold string at failed
    split at failed
    · cases failed
    · cases failed
      rfl

/-- The only operand of an operation is the first that names no string. -/
theorem noString_of_string {misuse : Misuse} (failed : kernel.string handle = .error misuse)
    (needed : operation.stringHandles = [handle]) : Misused kernel operation misuse := by
  obtain ⟨absent, rfl⟩ := string_error failed
  exact .noString handle (by simp [needed, absent])

/-- A string is refused only for the limit of the settings. -/
theorem tooLong_of_store {text : ByteString} {misuse : Misuse}
    (failed : kernel.store text = .error misuse)
    (built : kernel.built? operation = some text.bytes) : Misused kernel operation misuse := by
  by_cases exceeds : kernel.settings.stringLimit > 0 ∧
      (text.length : Int) > kernel.settings.stringLimit
  · rw [store_refused exceeds] at failed
    cases failed
    exact .tooLong built exceeds
  · rw [store_accepted exceeds] at failed
    cases failed

/-- A join is refused for the longest string or for the limit of the settings. -/
theorem tooLong_of_extend {text : ByteString} {suffix : Bytes} {misuse : Misuse}
    (failed : kernel.storeJoined (text.extend suffix) = .error misuse)
    (built : kernel.built? operation = some (text.bytes ++ suffix)) :
    Misused kernel operation misuse := by
  cases extended : text.extend suffix with
  | error fault =>
    obtain ⟨beyond, named⟩ := ByteString.extend_error extended
    rw [extended] at failed
    cases failed
    exact .tooLongToJoin built beyond named
  | ok joined =>
    rw [extended] at failed
    refine tooLong_of_store failed ?_
    rw [built, ByteString.extend_ok extended]

/-- Every operation that fails is a misuse in one of the ways of `Misused`. -/
theorem attempt_misused {misuse : Misuse} (failed : kernel.attempt operation = .error misuse) :
    Misused kernel operation misuse := by
  cases operation with
  | listNew => cases failed
  | listAppend handle value =>
    obtain absent | ⟨contents, found, refused⟩ := Except.bind_error failed
    · exact noList_of_list absent rfl
    · unfold appendTo at refused
      by_cases full : (contents.length : Int) ≥ contents.limit
      · rw [DynamicList.append_full _ full] at refused
        cases refused
        exact .listFull handle value ((list_ok_iff kernel handle contents).mp found) full rfl
      · rw [DynamicList.append_free _ full] at refused
        cases refused
  | listAt handle index =>
    obtain absent | ⟨contents, found, unread⟩ := Except.bind_error failed
    · exact noList_of_list absent rfl
    · by_cases inside : 0 ≤ index ∧ index < contents.items.toList.length
      · rw [DynamicList.itemAt_inside inside] at unread
        cases unread
      · rw [DynamicList.itemAt_outside inside] at unread
        cases unread
        exact .listIndex handle index ((list_ok_iff kernel handle contents).mp found) inside
  | listLength handle =>
    obtain absent | ⟨contents, _, answered⟩ := Except.bind_error failed
    · exact noList_of_list absent rfl
    · cases answered
  | listItems handle =>
    obtain absent | ⟨contents, _, answered⟩ := Except.bind_error failed
    · exact noList_of_list absent rfl
    · cases answered
  | stringNew data => exact tooLong_of_store failed rfl
  | stringAdd handle suffix =>
    obtain absent | ⟨text, found, refused⟩ := Except.bind_error failed
    · exact noString_of_string absent rfl
    · exact tooLong_of_extend refused (by simp [built?, text?_of_string found])
  | stringConcat handle suffix =>
    obtain absent | ⟨text, found, following⟩ := Except.bind_error failed
    · obtain ⟨missing, rfl⟩ := string_error absent
      exact .noString handle (by simp [Operation.stringHandles, missing])
    · have operand := text?_of_string found
      obtain absent | ⟨tail, tailFound, refused⟩ := Except.bind_error following
      · obtain ⟨missing, rfl⟩ := string_error absent
        exact .noString suffix (by simp [Operation.stringHandles, operand, missing])
      · exact tooLong_of_extend refused (by simp [built?, operand, text?_of_string tailFound])
  | stringLength handle =>
    obtain absent | ⟨text, _, answered⟩ := Except.bind_error failed
    · exact noString_of_string absent rfl
    · cases answered
  | stringAt handle index =>
    obtain absent | ⟨text, found, unread⟩ := Except.bind_error failed
    · exact noString_of_string absent rfl
    · by_cases inside : 0 ≤ index ∧ index < text.bytes.length
      · rw [ByteString.byteAt_inside inside] at unread
        cases unread
      · rw [ByteString.byteAt_outside inside] at unread
        cases unread
        exact .stringIndex handle index (text?_of_string found) inside
  | stringBytes handle =>
    obtain absent | ⟨text, _, answered⟩ := Except.bind_error failed
    · exact noString_of_string absent rfl
    · cases answered

/-- Reporting a misuse counts it and touches nothing else of the kernel. -/
theorem report_kernel (kernel : Kernel) (misuse : Misuse) :
    (kernel.report misuse).1 = kernel.observe fun metrics =>
      (metrics.observeFault misuse.kind.label).1 := by
  unfold report
  split <;> rfl

/-- The caller is told of the misuse's fault and traces of it are left outside as the
settings say. -/
theorem report_outcome (kernel : Kernel) (misuse : Misuse) :
    (kernel.report misuse).2 =
      ⟨.error (kernel.settings.failure misuse.fault), kernel.settings.traces misuse⟩ := by
  unfold report Settings.failure Settings.traces
  split <;> rfl

/-- The result of a misuse is what the caller is told. -/
theorem report_result (kernel : Kernel) (misuse : Misuse) :
    (kernel.report misuse).2.result = .error (kernel.settings.failure misuse.fault) := by
  rw [report_outcome]

/-- The effects of a misuse are its traces. -/
theorem report_effects (kernel : Kernel) (misuse : Misuse) :
    (kernel.report misuse).2.effects = kernel.settings.traces misuse := by
  rw [report_outcome]

/-- An operation is answered with the reply to what it attempts, or the caller is
told about the fault. -/
theorem step_result (kernel : Kernel) (operation : Operation) :
    (kernel.step operation).2.result =
      ((kernel.attempt operation).map Prod.snd).mapError fun misuse =>
        kernel.settings.failure misuse.fault := by
  unfold step
  cases kernel.attempt operation with
  | ok answer => rfl
  | error misuse => exact report_result kernel misuse

/-- An operation is done in one of the four ways, without any effect outside the
kernel, or it is a misuse and is reported as one. -/
theorem step_cases (kernel : Kernel) (operation : Operation) :
    (∃ next reply, Done kernel operation next reply ∧
      kernel.step operation = (next, ⟨.ok reply, {}⟩)) ∨
    ∃ misuse, kernel.attempt operation = .error misuse ∧
      kernel.step operation = kernel.report misuse := by
  unfold step
  cases attempted : kernel.attempt operation with
  | error misuse => exact .inr ⟨misuse, rfl, rfl⟩
  | ok answer =>
    obtain ⟨next, reply⟩ := answer
    exact .inl ⟨next, reply, attempt_done attempted, rfl⟩

/-- The settings of a kernel are fixed when it starts. -/
@[simp] theorem settings_step (kernel : Kernel) (operation : Operation) :
    (kernel.step operation).1.settings = kernel.settings := by
  obtain ⟨next, reply, done, stepped⟩ | ⟨misuse, _, stepped⟩ := step_cases kernel operation
  · rw [stepped]
    cases done <;> rfl
  · rw [stepped, report_kernel, settings_observe]

/-- An append to a live list is decided by that list alone. -/
theorem attempt_listAppend {contents : DynamicList Value} (value : Option Value)
    (live : kernel.container? handle = some (.list contents)) :
    kernel.attempt (.listAppend handle value) = kernel.appendTo handle contents value := by
  have found := (list_ok_iff kernel handle contents).mpr live
  simp only [attempt, found]
  rfl

/-- A misuse leaves every container as it is. The one case with an argument is
an append to the container itself, which then was refused by the list. -/
theorem after_of_misuse {misuse : Misuse} {contents : Container}
    (live : kernel.container? handle = some contents)
    (failed : kernel.attempt operation = .error misuse) :
    contents.after handle operation = contents := by
  unfold Container.after
  split
  · next target value items =>
    split
    · next same =>
      subst same
      rw [attempt_listAppend value live] at failed
      unfold appendTo at failed
      unfold DynamicList.appended
      cases grew : items.append (value.getD .nil) with
      | error fault => rfl
      | ok answer => simp [grew] at failed
    · rfl
  · rfl

/-- An operation that the caller is told has failed was a misuse. -/
theorem misuse_of_failure {failure : Failure}
    (failed : (kernel.step operation).2.result = .error failure) :
    ∃ misuse, kernel.attempt operation = .error misuse := by
  rw [step_result] at failed
  cases attempted : kernel.attempt operation with
  | ok answer =>
    rw [attempted] at failed
    cases failed
  | error misuse => exact ⟨misuse, rfl⟩

/-- What a live handle names after an operation, whichever the operation is and
whether or not it succeeds. -/
theorem container?_step (operation : Operation) {contents : Container}
    (live : kernel.container? handle = some contents) :
    (kernel.step operation).1.container? handle = some (contents.after handle operation) := by
  obtain ⟨next, reply, done, stepped⟩ | ⟨misuse, failed, stepped⟩ := step_cases kernel operation
  · rw [stepped]
    cases done with
    | read reply reads =>
      rw [live, contents.after_other]
      rintro value rfl
      cases reads
    | listMade =>
      rw [contents.after_other (by simp)]
      exact container?_add_old _ live
    | stringMade text built fits =>
      rw [contents.after_other]
      · exact container?_add_old _ live
      · rintro value rfl
        cases built
    | appended target value targetLive grew =>
      rw [@container?_setList (kernel.observe _) handle target _ _ targetLive]
      split
      · next same =>
        subst same
        have isList := Option.some.inj (live.symm.trans targetLive)
        subst isList
        simp [Container.after, DynamicList.appended, grew]
      · next apart =>
        have different : ∀ given, Operation.listAppend target value ≠ .listAppend handle given := by
          rintro given same
          exact apart (Operation.listAppend.inj same).1.symm
        rw [contents.after_other different]
        exact live
  · rw [stepped, report_kernel, container?_observe, live, after_of_misuse live failed]

/-! ## Runs -/

@[simp] theorem run_nil (kernel : Kernel) : kernel.run [] = (kernel, []) := rfl

@[simp] theorem run_cons (kernel : Kernel) (operation : Operation) (rest : List Operation) :
    kernel.run (operation :: rest) =
      (((kernel.step operation).1.run rest).1,
        (kernel.step operation).2 :: ((kernel.step operation).1.run rest).2) := rfl

/-- A run goes on from the kernel that its first part leaves. -/
theorem run_append (kernel : Kernel) (first second : List Operation) :
    kernel.run (first ++ second) =
      (((kernel.run first).1.run second).1,
        (kernel.run first).2 ++ ((kernel.run first).1.run second).2) := by
  induction first generalizing kernel with
  | nil => rfl
  | cons operation rest inductionHypothesis =>
    simp [inductionHypothesis]

/-- What every operation keeps, every run keeps. -/
theorem run_invariant (holds : Kernel → Prop)
    (kept : ∀ kernel operation, holds kernel → holds (kernel.step operation).1)
    (operations : List Operation) (kernel : Kernel) (initially : holds kernel) :
    holds (kernel.run operations).1 := by
  induction operations generalizing kernel with
  | nil => exact initially
  | cons operation rest inductionHypothesis =>
    exact inductionHypothesis (kernel.step operation).1 (kept kernel operation initially)

/-- The settings stay what they are over a whole run. -/
@[simp] theorem settings_run (kernel : Kernel) (operations : List Operation) :
    (kernel.run operations).1.settings = kernel.settings := by
  refine run_invariant (·.settings = kernel.settings) ?_ operations kernel rfl
  intro reached operation same
  rw [settings_step, same]

/-- What a live handle names after a run: the container with the effects of the
run's operations on it, one after the other. -/
theorem container?_run (operations : List Operation) {contents : Container}
    (live : kernel.container? handle = some contents) :
    (kernel.run operations).1.container? handle =
      some (operations.foldl (Container.after handle) contents) := by
  induction operations generalizing kernel contents with
  | nil => exact live
  | cons operation rest inductionHypothesis =>
    exact inductionHypothesis (container?_step operation live)

end Kernel

end ContainerKernel
