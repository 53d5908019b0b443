import ContainerKernel.Proofs.KernelSteps

/-!
# A string is what it was made of

A string is fixed when it is made: by the buffer up to its first NUL byte, by the
bytes of an operand and such a buffer, or by the bytes of two operands, which may
be the same. Whatever is done later, its handle answers from these bytes.

Two facts about all strings of a reachable kernel are kept by every operation,
although no operation checks the first of them: no string holds a NUL byte, since
buffers are cut and operands were cut before, and no string is longer than the
limit of the settings, since every new string passes the same check.

The longest string that joining makes is a condition of the law about refusals
only: where it is not exceeded, the limit of the settings alone decides.
-/

namespace ContainerKernel

/-- Whether an operation makes a string when it succeeds. -/
def Operation.makesString : Operation → Bool
  | .stringNew _ | .stringAdd .. | .stringConcat .. => true
  | _ => false

/-- An operation that makes a string is no read. -/
theorem Operation.makesString_not_reads (operation : Operation)
    (makes : operation.makesString = true) : operation.reads = false := by
  cases operation <;> first | rfl | cases makes

namespace Kernel

variable {kernel : Kernel} {operation : Operation} {handle : Int} {text : Bytes}

/-! ## What operations on a live string answer -/

/-- A handle has bytes exactly when asking for them succeeds, and then these are
the answer. -/
theorem text?_iff_answered (kernel : Kernel) (handle : Int) (text : Bytes) :
    kernel.text? handle = some text ↔
      (kernel.step (.stringBytes handle)).2.result = .ok (.bytes text) := by
  rw [text?_eq_some_iff, ← string_ok_iff, step_result]
  simp only [attempt]
  cases kernel.string handle with
  | ok found =>
    constructor
    · intro same
      cases same
      rfl
    · intro same
      cases same
      rfl
  | error misuse =>
    constructor
    · intro impossible
      cases impossible
    · intro impossible
      cases impossible

/-- The number of bytes of a live string is returned. -/
theorem step_stringLength (live : kernel.text? handle = some text) :
    (kernel.step (.stringLength handle)).2.result = .ok (.length text.length) := by
  have found := (string_ok_iff kernel handle ⟨text⟩).mpr ((text?_eq_some_iff _ _ _).mp live)
  rw [step_result]
  simp only [attempt, found]
  rfl

/-- A live string is read at the indices inside it; any other index is a fault. -/
theorem step_stringAt (index : Int) (live : kernel.text? handle = some text) :
    (kernel.step (.stringAt handle index)).2.result =
      if inside : 0 ≤ index ∧ index < text.length then
        .ok (.byte (text.get ⟨index.toNat, by omega⟩))
      else .error (kernel.settings.failure (.index (utf8 "string") index text.length)) := by
  have found := (string_ok_iff kernel handle ⟨text⟩).mpr ((text?_eq_some_iff _ _ _).mp live)
  rw [step_result]
  simp only [attempt, found, bind, Except.bind]
  by_cases inside : 0 ≤ index ∧ index < text.length
  · rw [ByteString.byteAt_inside inside, dif_pos inside]
    rfl
  · rw [ByteString.byteAt_outside inside, dif_neg inside]
    rfl

/-! ## Making strings -/

/-- An operation whose operands are there comes down to storing the string that
it is to make, unless that is longer than the longest string. -/
theorem attempt_built (built : kernel.built? operation = some text)
    (within : (text.length : Int) ≤ ByteString.maxLength) :
    kernel.attempt operation = kernel.store ⟨text⟩ := by
  cases operation with
  | stringNew data =>
    cases built
    rfl
  | stringAdd handle suffix =>
    obtain ⟨operand, live, rfl⟩ := Option.map_eq_some_iff.mp built
    have found := (string_ok_iff kernel handle ⟨operand⟩).mpr ((text?_eq_some_iff _ _ _).mp live)
    have joined := @ByteString.extend_within ⟨operand⟩ (terminated suffix) within
    simp only [attempt, found, bind, Except.bind, ByteString.appendTerminated, joined]
    rfl
  | stringConcat handle suffix =>
    obtain ⟨operand, live, rest⟩ := Option.bind_eq_some_iff.mp built
    obtain ⟨tail, tailLive, rfl⟩ := Option.map_eq_some_iff.mp rest
    have found := (string_ok_iff kernel handle ⟨operand⟩).mpr ((text?_eq_some_iff _ _ _).mp live)
    have tailFound := (string_ok_iff kernel suffix ⟨tail⟩).mpr
      ((text?_eq_some_iff _ _ _).mp tailLive)
    have joined := @ByteString.extend_within ⟨operand⟩ tail within
    simp only [attempt, found, tailFound, bind, Except.bind, ByteString.append, joined]
    rfl
  | listNew | listAppend | listAt | listLength | listItems | stringLength | stringAt
  | stringBytes => cases built

/-- A string is refused exactly when it is longer than a positive limit of the
settings. -/
theorem step_built (built : kernel.built? operation = some text)
    (within : (text.length : Int) ≤ ByteString.maxLength) :
    (kernel.step operation).2.result =
      if kernel.settings.stringLimit > 0 ∧ (text.length : Int) > kernel.settings.stringLimit then
        .error (kernel.settings.failure
          (.allocation (utf8 "string") text.length kernel.settings.stringLimit))
      else .ok (.handle (kernel.containers.size + 1)) := by
  rw [step_result, attempt_built built within]
  by_cases tooLong : kernel.settings.stringLimit > 0 ∧
      (text.length : Int) > kernel.settings.stringLimit
  · rw [if_pos tooLong, store_refused tooLong]
    rfl
  · rw [if_neg tooLong, store_accepted tooLong]
    rfl

/-- The handle of a new string names what the operation was to make. -/
theorem text?_made (makes : operation.makesString = true)
    (made : (kernel.step operation).2.result = .ok (.handle handle)) :
    ∃ text, kernel.built? operation = some text ∧
      (kernel.step operation).1.text? handle = some text := by
  obtain ⟨next, reply, done, stepped⟩ | ⟨misuse, _, stepped⟩ := step_cases kernel operation
  · rw [stepped] at made ⊢
    cases done with
    | read _ reads =>
      rw [operation.makesString_not_reads makes] at reads
      cases reads
    | listMade => cases makes
    | stringMade text built fits =>
      cases made
      refine ⟨text.bytes, built, ?_⟩
      exact (text?_eq_some_iff _ _ _).mpr (container?_add_new kernel (.string text))
    | appended => cases makes
  · rw [stepped, report_result] at made
    cases made

/-- The bytes of a string survive every run. -/
theorem text?_run (operations : List Operation) (live : kernel.text? handle = some text) :
    (kernel.run operations).1.text? handle = some text := by
  have unchanged : operations.foldl (Container.after handle) (.string ⟨text⟩) =
      .string ⟨text⟩ := by
    induction operations with
    | nil => rfl
    | cons operation rest inductionHypothesis =>
      rw [List.foldl_cons, Container.after_string, inductionHypothesis]
  rw [text?_eq_some_iff] at live ⊢
  rw [container?_run operations live, unchanged]

/-! ## What all strings have in common -/

/-- A string of the kernel after an operation was there before or is the one
that the operation made, within the limit of the settings. -/
theorem string_mem_step {stored : ByteString}
    (found : Container.string stored ∈ (kernel.step operation).1.containers) :
    Container.string stored ∈ kernel.containers ∨
      kernel.built? operation = some stored.bytes ∧
        ¬ (kernel.settings.stringLimit > 0 ∧
          (stored.length : Int) > kernel.settings.stringLimit) := by
  obtain ⟨next, reply, done, stepped⟩ | ⟨misuse, _, stepped⟩ := step_cases kernel operation
  · rw [stepped] at found
    cases done with
    | read _ _ => exact .inl found
    | listMade =>
      obtain old | new := Array.mem_push.mp found
      · exact .inl old
      · cases new
    | stringMade text built fits =>
      obtain old | new := Array.mem_push.mp found
      · exact .inl old
      · cases new
        exact .inr ⟨built, fits⟩
    | appended target value live grew =>
      obtain old | new := Array.mem_or_eq_of_mem_setIfInBounds found
      · exact .inl old
      · cases new
  · rw [stepped, report_kernel] at found
    exact .inl found

/-- A handle with bytes names a stored string. -/
theorem string_mem_of_text? (live : kernel.text? handle = some text) :
    Container.string ⟨text⟩ ∈ kernel.containers := by
  rw [text?_eq_some_iff] at live
  exact Array.mem_of_getElem? (getElem?_of_live live)

/-- Strings made of cut buffers and strings without NUL bytes have none. -/
theorem built?_nul_free (built : kernel.built? operation = some text)
    (clean : ∀ stored, Container.string stored ∈ kernel.containers → (0 : UInt8) ∉ stored.bytes) :
    (0 : UInt8) ∉ text := by
  cases operation with
  | stringNew data =>
    cases built
    exact terminated_nul_free data
  | stringAdd handle suffix =>
    obtain ⟨operand, live, rfl⟩ := Option.map_eq_some_iff.mp built
    simp only [List.mem_append, not_or]
    exact ⟨clean ⟨operand⟩ (string_mem_of_text? live), terminated_nul_free suffix⟩
  | stringConcat handle suffix =>
    obtain ⟨operand, live, rest⟩ := Option.bind_eq_some_iff.mp built
    obtain ⟨tail, tailLive, rfl⟩ := Option.map_eq_some_iff.mp rest
    simp only [List.mem_append, not_or]
    exact ⟨clean ⟨operand⟩ (string_mem_of_text? live), clean ⟨tail⟩ (string_mem_of_text? tailLive)⟩
  | listNew | listAppend | listAt | listLength | listItems | stringLength | stringAt
  | stringBytes => cases built

/-- Every string is without NUL bytes and within the limit of the settings. -/
def StringsClean (kernel : Kernel) : Prop :=
  ∀ stored, Container.string stored ∈ kernel.containers →
    (0 : UInt8) ∉ stored.bytes ∧
      (kernel.settings.stringLimit > 0 → (stored.length : Int) ≤ kernel.settings.stringLimit)

/-- Every operation keeps all strings clean. -/
theorem stringsClean_step (kernel : Kernel) (operation : Operation)
    (clean : kernel.StringsClean) : (kernel.step operation).1.StringsClean := by
  intro stored found
  rw [settings_step]
  obtain old | ⟨built, fits⟩ := string_mem_step found
  · exact clean stored old
  · refine ⟨built?_nul_free built fun other member => (clean other member).1, ?_⟩
    intro limited
    omega

/-- All strings are clean in every kernel that a run reaches. -/
theorem stringsClean_run (settings : Settings) (metrics : Option Metrics)
    (operations : List Operation) : ((start settings metrics).run operations).1.StringsClean := by
  refine run_invariant StringsClean stringsClean_step operations _ ?_
  intro stored found
  cases Array.not_mem_empty _ found

/-! ## The history of a string -/

/-- **The history of a string.** Take any settings and any operations `before`,
and the kernel that they leave.

* Every stored string is without NUL bytes, and within a positive limit.
* The bytes of an operand are what asking for them answers at that moment.
* An operation whose operands are there, and whose result is not beyond the
  longest string, fails exactly when the result is longer than a positive limit,
  with a fault that names the length of the result and the limit.
* A handle that making a string returned names the string that the operation was
  to make, now and after any further operations: its bytes, its length and its
  bytes by index are answered from it, and an index outside of it is a fault.

What an operation is to make (`built?`) is the buffer cut at its first NUL byte,
an operand followed by such a buffer, or two operands one after the other. -/
theorem string_holds_built_bytes (settings : Settings) (metrics : Option Metrics)
    (before : List Operation) :
    let kernel := ((start settings metrics).run before).1
    (∀ stored, Container.string stored ∈ kernel.containers →
      (0 : UInt8) ∉ stored.bytes ∧
        (settings.stringLimit > 0 → (stored.length : Int) ≤ settings.stringLimit)) ∧
    (∀ handle text, kernel.text? handle = some text ↔
      (kernel.step (.stringBytes handle)).2.result = .ok (.bytes text)) ∧
    (∀ operation text, kernel.built? operation = some text →
      (text.length : Int) ≤ ByteString.maxLength →
      (kernel.step operation).2.result =
        if settings.stringLimit > 0 ∧ (text.length : Int) > settings.stringLimit then
          .error (settings.effective.failure
            (.allocation (utf8 "string") text.length settings.stringLimit))
        else .ok (.handle (kernel.containers.size + 1))) ∧
    (∀ operation handle, operation.makesString = true →
      (kernel.step operation).2.result = .ok (.handle handle) →
      ∃ text, kernel.built? operation = some text ∧ ∀ after,
        let later := ((start settings metrics).run (before ++ operation :: after)).1
        (later.step (.stringBytes handle)).2.result = .ok (.bytes text) ∧
        (later.step (.stringLength handle)).2.result = .ok (.length text.length) ∧
        ∀ index : Int, (later.step (.stringAt handle index)).2.result =
          if inside : 0 ≤ index ∧ index < text.length then
            .ok (.byte (text.get ⟨index.toNat, by omega⟩))
          else .error
            (settings.effective.failure (.index (utf8 "string") index text.length))) := by
  intro kernel
  have told : kernel.settings = settings.effective := settings_run _ _
  refine ⟨?_, text?_iff_answered kernel, ?_, ?_⟩
  · intro stored found
    have clean := stringsClean_run settings metrics before stored found
    rw [settings_run] at clean
    exact clean
  · intro operation text built within
    have answered := step_built built within
    rw [told] at answered
    exact answered
  · intro operation handle makes made
    obtain ⟨text, built, live⟩ := text?_made makes made
    refine ⟨text, built, ?_⟩
    intro after later
    have laterLive : later.text? handle = some text := by
      show ((start settings metrics).run (before ++ operation :: after)).1.text? handle = _
      rw [run_append]
      exact text?_run after live
    have laterTold : later.settings = settings.effective := settings_run _ _
    refine ⟨(text?_iff_answered later handle text).mp laterLive, step_stringLength laterLive, ?_⟩
    intro index
    rw [← laterTold]
    exact step_stringAt index laterLive

/-- A string joined with itself under a limit of five: its bytes outlast a refused
join and a bad index, and a join that would have six bytes is refused. -/
theorem joined_string_under_limit :
    let settings : Settings := { stringLimit := 5, policy := .error }
    let before : List Operation := [.stringNew [97, 0, 98], .stringAdd 1 [99, 0]]
    let after : List Operation := [.stringAdd 3 [100, 101], .stringAt 3 9]
    let kernel := ((start settings none).run before).1
    let later := ((start settings none).run (before ++ .stringConcat 2 2 :: after)).1
    kernel.built? (.stringAdd 2 [1, 2, 3, 4]) = some [97, 99, 1, 2, 3, 4] ∧
    (kernel.step (.stringAdd 2 [1, 2, 3, 4])).2.result =
      .error (.fault (.allocation (utf8 "string") 6 5)) ∧
    (kernel.step (.stringConcat 2 2)).2.result = .ok (.handle 3) ∧
    (later.step (.stringBytes 3)).2.result = .ok (.bytes [97, 99, 97, 99]) := by
  intro settings before after kernel later
  obtain ⟨_, _, created, kept⟩ := string_holds_built_bytes settings none before
  have built : kernel.built? (.stringAdd 2 [1, 2, 3, 4]) = some [97, 99, 1, 2, 3, 4] := by decide
  have made : (kernel.step (.stringConcat 2 2)).2.result = .ok (.handle 3) := rfl
  refine ⟨built, created _ _ built (by decide), made, ?_⟩
  obtain ⟨text, joined, always⟩ := kept (.stringConcat 2 2) 3 rfl made
  have doubled : kernel.built? (.stringConcat 2 2) = some [97, 99, 97, 99] := by decide
  cases joined.symm.trans doubled
  exact (always after).1

end Kernel

end ContainerKernel
