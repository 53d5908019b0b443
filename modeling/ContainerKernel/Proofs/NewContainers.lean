import ContainerKernel.Proofs.StringHistory

/-!
# Operations that make a container

An operation that returns a handle made a list or a string, and the handle is the
next number. Every other operation leaves as many containers as there were. Which
text an operation stores, if it stores one, is told by the settings and by what
its operands are (`Kernel.stored?`); if it stores none, it is a misuse.
-/

namespace ContainerKernel

/-- Whether an operation joins two texts. -/
def Operation.joins : Operation → Bool
  | .stringAdd .. | .stringConcat .. => true
  | _ => false

/-- Whether a text can be stored: it is within a positive limit, and a text that
comes of joining is within the longest string. -/
def Settings.allowsText (settings : Settings) (joined : Bool) (text : Bytes) : Bool :=
  (!joined || (text.length : Int) ≤ ByteString.maxLength) &&
    ! (settings.stringLimit > 0 ∧ (text.length : Int) > settings.stringLimit)

/-- A text is allowed exactly if it is within a positive limit and, where it comes
of joining, within the longest string. -/
theorem Settings.allowsText_iff (settings : Settings) (joined : Bool) (text : Bytes) :
    settings.allowsText joined text = true ↔
      (joined = true → (text.length : Int) ≤ ByteString.maxLength) ∧
        ¬ (settings.stringLimit > 0 ∧ (text.length : Int) > settings.stringLimit) := by
  cases joined <;> simp [Settings.allowsText] <;> omega

namespace Kernel

variable {kernel next : Kernel} {operation : Operation} {handle : Int} {text : Bytes}

/-! ## Handles -/

/-- A read never answers with a handle. -/
theorem read_reply_ne_handle {reply : Reply} (reads : operation.reads = true)
    (succeeded : kernel.attempt operation = .ok (next, reply)) (handle : Int) :
    reply ≠ .handle handle := by
  rintro rfl
  cases operation with
  | listAt target index =>
    obtain ⟨contents, _, answered⟩ := Except.bind_ok succeeded
    split at answered <;> cases answered
  | stringAt target index =>
    obtain ⟨text, _, answered⟩ := Except.bind_ok succeeded
    split at answered <;> cases answered
  | listLength target | listItems target | stringLength target | stringBytes target =>
    obtain ⟨found, _, answered⟩ := Except.bind_ok succeeded
    cases answered
  | listNew | listAppend | stringNew | stringAdd | stringConcat => cases reads

/-- Only an operation that makes a container answers with a handle. -/
theorem makes_of_handle (made : (kernel.step operation).2.result = .ok (.handle handle)) :
    operation = .listNew ∨ operation.makesString = true := by
  rw [step_result] at made
  cases attempted : kernel.attempt operation with
  | error misuse =>
    rw [attempted] at made
    cases made
  | ok answer =>
    obtain ⟨next, reply⟩ := answer
    rw [attempted] at made
    have same : reply = .handle handle := Except.ok.inj made
    cases operation with
    | listNew => exact .inl rfl
    | stringNew | stringAdd | stringConcat => exact .inr rfl
    | listAppend target value =>
      obtain ⟨contents, _, appended⟩ := Except.bind_ok attempted
      unfold appendTo at appended
      split at appended
      · cases appended
      · cases appended
        cases same
    | listAt | listLength | listItems | stringLength | stringAt | stringBytes =>
      exact absurd same (read_reply_ne_handle rfl attempted handle)

/-- A handle that is returned is the next one. -/
theorem size_of_handle (made : (kernel.step operation).2.result = .ok (.handle handle)) :
    handle = kernel.containers.size + 1 ∧
      (kernel.step operation).1.containers.size = kernel.containers.size + 1 := by
  have makes : operation.reads = false := by
    obtain rfl | makes := makes_of_handle made
    · rfl
    · exact operation.makesString_not_reads makes
  obtain ⟨next, reply, done, stepped⟩ | ⟨misuse, _, stepped⟩ := step_cases kernel operation
  · rw [stepped] at made ⊢
    cases done with
    | read _ reads =>
      rw [makes] at reads
      cases reads
    | listMade =>
      cases made
      exact ⟨rfl, Array.size_push _⟩
    | stringMade text _ _ =>
      cases made
      exact ⟨rfl, Array.size_push _⟩
    | appended => cases made
  · rw [stepped, report_result] at made
    cases made

/-- After an operation that returns no handle there are as many containers as
before. -/
theorem size_of_no_handle
    (unmade : ∀ handle, (kernel.step operation).2.result ≠ .ok (.handle handle)) :
    (kernel.step operation).1.containers.size = kernel.containers.size := by
  obtain ⟨next, reply, done, stepped⟩ | ⟨misuse, _, stepped⟩ := step_cases kernel operation
  · rw [stepped] at unmade ⊢
    cases done with
    | read => rfl
    | listMade => exact absurd rfl (unmade _)
    | stringMade => exact absurd rfl (unmade _)
    | appended => exact Array.size_setIfInBounds
  · rw [stepped, report_kernel]
    rfl

/-- A live handle is one of those returned so far. -/
theorem handle_of_live {container : Container} (live : kernel.container? handle = some container) :
    1 ≤ handle ∧ handle ≤ kernel.containers.size := by
  unfold container? at live
  split at live
  · cases live
  · next positive =>
    obtain ⟨inside, _⟩ := Array.getElem?_eq_some_iff.mp live
    omega

/-! ## Texts -/

/-- The text that an operation stores. -/
def stored? (kernel : Kernel) (operation : Operation) : Option Bytes :=
  (kernel.built? operation).filter (kernel.settings.allowsText operation.joins)

/-- A text that is not too long for a join is stored if the settings allow it. -/
theorem attempt_store (built : kernel.built? operation = some text)
    (within : operation.joins = true → (text.length : Int) ≤ ByteString.maxLength) :
    kernel.attempt operation = kernel.store ⟨text⟩ := by
  cases operation with
  | stringNew data =>
    cases built
    rfl
  | stringAdd | stringConcat => exact attempt_built built (within rfl)
  | listNew | listAppend | listAt | listLength | listItems | stringLength | stringAt
  | stringBytes => cases built

/-- A join that would be longer than the longest string is a misuse. -/
theorem attempt_beyond (built : kernel.built? operation = some text)
    (joins : operation.joins = true) (beyond : (text.length : Int) > ByteString.maxLength) :
    ∃ misuse, kernel.attempt operation = .error misuse := by
  cases operation with
  | stringAdd handle suffix =>
    obtain ⟨operand, live, rfl⟩ := Option.map_eq_some_iff.mp built
    have found := (string_ok_iff kernel handle ⟨operand⟩).mpr ((text?_eq_some_iff _ _ _).mp live)
    obtain ⟨fault, refused⟩ := @ByteString.extend_beyond ⟨operand⟩ (terminated suffix) beyond
    simp only [attempt, found, bind, Except.bind, ByteString.appendTerminated, refused]
    exact ⟨_, rfl⟩
  | stringConcat handle suffix =>
    obtain ⟨operand, live, rest⟩ := Option.bind_eq_some_iff.mp built
    obtain ⟨tail, tailLive, rfl⟩ := Option.map_eq_some_iff.mp rest
    have found := (string_ok_iff kernel handle ⟨operand⟩).mpr ((text?_eq_some_iff _ _ _).mp live)
    have tailFound := (string_ok_iff kernel suffix ⟨tail⟩).mpr
      ((text?_eq_some_iff _ _ _).mp tailLive)
    obtain ⟨fault, refused⟩ := @ByteString.extend_beyond ⟨operand⟩ tail beyond
    simp only [attempt, found, tailFound, bind, Except.bind, ByteString.append, refused]
    exact ⟨_, rfl⟩
  | listNew | listAppend | listAt | listLength | listItems | stringNew | stringLength | stringAt
  | stringBytes => cases joins

/-- An operation that stores a text returns the next handle. -/
theorem result_of_stored (stored : kernel.stored? operation = some text) :
    (kernel.step operation).2.result = .ok (.handle (kernel.containers.size + 1)) := by
  obtain ⟨built, allowed⟩ := Option.filter_eq_some_iff.mp stored
  obtain ⟨within, fits⟩ := (Settings.allowsText_iff _ _ _).mp allowed
  rw [step_result, attempt_store built within, store_accepted fits]
  rfl

/-- An operation that is to make a text and stores none is a misuse. -/
theorem misuse_of_unstored (makes : operation.makesString = true)
    (unstored : kernel.stored? operation = none) :
    ∃ misuse, kernel.attempt operation = .error misuse := by
  cases attempted : kernel.attempt operation with
  | error misuse => exact ⟨misuse, rfl⟩
  | ok answer =>
    obtain ⟨next, reply⟩ := answer
    cases attempt_done attempted with
    | read _ reads =>
      rw [operation.makesString_not_reads makes] at reads
      cases reads
    | listMade => cases makes
    | appended => cases makes
    | stringMade text built fits =>
      have refused : ¬ (operation.joins = true →
          (text.bytes.length : Int) ≤ ByteString.maxLength) := by
        intro within
        have allowed := (Settings.allowsText_iff kernel.settings operation.joins text.bytes).mpr
          ⟨within, fits⟩
        rw [stored?, built, Option.filter_some, if_pos allowed] at unstored
        cases unstored
      obtain ⟨joins, beyond⟩ := Classical.not_imp.mp refused
      obtain ⟨misuse, failed⟩ := attempt_beyond built joins (Int.not_le.mp beyond)
      rw [failed] at attempted
      cases attempted

end Kernel

end ContainerKernel
