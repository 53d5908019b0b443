import ContainerKernel.Proofs.MachineTables

/-!
# Every fault is recorded exactly once

A fault leaves its trace in four places: the counters, the log, the printed text
and the exits, besides the failure that the caller is told. An operation leaves a
trace in all the places that its policy asks for and in each of them once, or in
none at all; `Recorded` and `Unrecorded` are the two possibilities, and
`step_recorded` says that there is no third. From this the records of a whole run
follow by adding up.

The failure that the caller is told belongs to exactly one class, and it is the
kind under which the misuse is counted and logged (`Misused.kind_eq`). Wrapping the
failure in further texts changes neither its class nor the exit code that it carries.

A counter adds in 64-bit arithmetic, and the totals here are words accordingly.
-/

namespace ContainerKernel

/-- A failure under further texts, the last one outermost. -/
def Failure.wrapAll (failure : Failure) (texts : List Bytes) : Failure :=
  texts.foldl (fun cause text => .wrapped text cause) failure

/-- Wrapping keeps the classes of a failure. -/
@[simp] theorem Failure.isOf_wrapAll (failure : Failure) (texts : List Bytes)
    (wanted : FaultClass) : (failure.wrapAll texts).isOf wanted = failure.isOf wanted := by
  induction texts generalizing failure with
  | nil => rfl
  | cons text rest inductionHypothesis => exact inductionHypothesis (.wrapped text failure)

/-- Wrapping keeps the exit code of a failure. -/
@[simp] theorem Failure.exitCode?_wrapAll (failure : Failure) (texts : List Bytes) :
    (failure.wrapAll texts).exitCode? = failure.exitCode? := by
  induction texts generalizing failure with
  | nil => rfl
  | cons text rest inductionHypothesis => exact inductionHypothesis (.wrapped text failure)

namespace Settings

/-- What a caller is told about a fault is of the fault's class and no other. -/
theorem failure_isOf (settings : Settings) (fault : Fault) (wanted : FaultClass) :
    (settings.failure fault).isOf wanted = true ↔ wanted = fault.faultClass := by
  unfold failure
  split <;> simp [Failure.isOf, eq_comm]

/-- What a caller is told about a fault carries an exit code under the abort policy
only. -/
theorem failure_exitCode? (settings : Settings) (fault : Fault) :
    (settings.failure fault).exitCode? =
      if settings.policy = .abort then some settings.exitCode else none := by
  unfold failure
  split <;> simp [Failure.exitCode?]

/-- A kernel that aborts never does so with exit code zero. -/
theorem effective_exitCode_ne_zero (settings : Settings)
    (aborts : settings.effective.policy = .abort) : settings.effective.exitCode ≠ 0 := by
  have aborting : (if settings.policy = .unknown [] then .abort else settings.policy) =
      Policy.abort := aborts
  simp only [effective, aborting, true_and]
  by_cases zero : settings.exitCode = 0
  · rw [if_pos zero]
    decide
  · rw [if_neg zero]
    exact zero

end Settings

/-! ## Counting faults -/

/-- The number of faults counted under a name. -/
def Metrics.faultTotal (metrics : Metrics) (name : Bytes) : UInt64 :=
  ((metrics.faults.lookup name).getD {}).total

/-- Counting a fault raises the counter of its name and no other. -/
theorem Metrics.lookup_countFault (name other : Bytes) (faults : List (Bytes × Counter)) :
    ((Metrics.countFault name faults).lookup other).getD {} =
      if other = name then ((faults.lookup name).getD {}).increment
      else (faults.lookup other).getD {} := by
  induction faults with
  | nil =>
    by_cases same : other = name
    · subst same
      simp [Metrics.countFault]
    · have apart : (other == name) = false := beq_false_of_ne same
      simp [Metrics.countFault, List.lookup_cons, apart, same]
  | cons entry rest inductionHypothesis =>
    obtain ⟨known, counter⟩ := entry
    by_cases same : other = known
    · subst same
      by_cases found : other = name
      · subst found
        simp [Metrics.countFault]
      · simp [Metrics.countFault, found]
    · have apart : (other == known) = false := beq_false_of_ne same
      by_cases found : known = name
      · subst found
        simp [Metrics.countFault, List.lookup_cons, apart, same]
      · have nameApart : (name == known) = false := beq_false_of_ne (Ne.symm found)
        simp only [Metrics.countFault, if_neg found, List.lookup_cons, apart, nameApart]
        exact inductionHypothesis

/-- The names of the classes are all UTF-8, so that their faults are counted. -/
theorem FaultClass.label_isUtf8 (faultClass : FaultClass) : isUtf8 faultClass.label = true := by
  cases faultClass <;> decide

/-- Different classes have different names. -/
theorem FaultClass.label_injective {first second : FaultClass}
    (same : first.label = second.label) : first = second := by
  revert same
  cases first <;> cases second <;> decide

/-- A fault of a class raises the total of the class by one and no other. -/
theorem Metrics.faultTotal_observeFault (metrics : Metrics) (faultClass : FaultClass)
    (name : Bytes) :
    (metrics.observeFault faultClass.label).1.faultTotal name =
      metrics.faultTotal name + if name = faultClass.label then 1 else 0 := by
  simp only [Metrics.observeFault, if_pos faultClass.label_isUtf8, Metrics.faultTotal,
    Metrics.lookup_countFault]
  split
  · next same => rw [same]; rfl
  · simp

/-- Counting that does not depend on the counters of faults keeps them. -/
theorem Metrics.faults_of_withFaults (count : Metrics → Metrics)
    (commutes : ∀ metrics faults,
      count (metrics.withFaults faults) = (count metrics).withFaults faults)
    (metrics : Metrics) : (count metrics).faults = metrics.faults := by
  have same : count metrics = (count metrics).withFaults metrics.faults :=
    commutes metrics metrics.faults
  rw [same]
  rfl

/-! ## Diagnostics are single lines -/

/-- The encoding of a decimal digit is no line end. -/
theorem digit_one_line {digit : Char} (isDigit : digit.isDigit = true) :
    (10 : UInt8) ∉ String.utf8EncodeChar digit := by
  simp only [Char.isDigit, Bool.and_eq_true, decide_eq_true_eq, ge_iff_le,
    UInt32.le_iff_toNat_le] at isDigit
  have lowest : ('0' : Char).val.toNat = 48 := rfl
  have highest : ('9' : Char).val.toNat = 57 := rfl
  have narrow : digit.utf8Size = 1 := by
    have small : digit.val ≤ 127 :=
      UInt32.le_iff_toNat_le.mpr (Nat.le_trans isDigit.2 (by decide))
    simp [Char.utf8Size, small]
  rw [String.utf8EncodeChar_eq_singleton narrow, List.mem_singleton]
  intro same
  have number := congrArg UInt8.toNat same
  rw [UInt32.toNat_toUInt8] at number
  have ten : (10 : UInt8).toNat = 10 := rfl
  omega

/-- A decimal number stands on one line. -/
theorem decimal_one_line (value : Int) : (10 : UInt8) ∉ decimal value := by
  have natural : (10 : UInt8) ∉ naturalDecimal value.natAbs := by
    simp only [naturalDecimal, encodeChars, List.mem_flatMap, not_exists, not_and]
    intro digit member
    exact digit_one_line (Nat.isDigit_of_mem_toDigits (by decide) (by decide) member)
  have sign : (10 : UInt8) ∉ utf8 "-" := by decide
  unfold decimal
  split
  · simp [sign, natural]
  · exact natural

/-- The text of a refused allocation stands on one line if the name of the
container does. -/
theorem Fault.allocation_one_line {container : Bytes} (named : (10 : UInt8) ∉ container)
    (requested limit : Int) :
    (10 : UInt8) ∉ (Fault.allocation container requested limit).message := by
  simp only [Fault.message, List.mem_append, not_or]
  exact ⟨⟨⟨⟨named, by decide⟩, decimal_one_line requested⟩, by decide⟩, decimal_one_line limit⟩

namespace Kernel

variable {kernel next : Kernel} {operation : Operation} {misuse : Misuse}

/-- Every diagnostic is a single line. -/
theorem Misused.one_line (misused : Misused kernel operation misuse) :
    (10 : UInt8) ∉ misuse.diagnostic := by
  cases misused with
  | noList handle | noString handle =>
    simp only [List.mem_append, not_or]
    exact ⟨⟨by decide, decimal_one_line handle⟩, by decide⟩
  | listFull handle value live full named =>
    subst named
    simp only [List.mem_append, not_or]
    exact ⟨⟨⟨⟨by decide, decimal_one_line handle⟩, by decide⟩,
      Fault.allocation_one_line (by decide) _ _⟩, by decide⟩
  | listIndex handle index | stringIndex handle index =>
    simp only [List.mem_append, not_or]
    exact ⟨⟨by decide, decimal_one_line index⟩, by decide⟩
  | tooLong =>
    simp only [List.mem_append, not_or]
    exact ⟨⟨by decide, decimal_one_line _⟩, by decide⟩
  | tooLongToJoin built beyond named =>
    subst named
    simp only [List.mem_append, not_or]
    exact ⟨⟨by decide, Fault.allocation_one_line (by decide) _ _⟩, by decide⟩

/-- Every misuse is of the kind that its fault is. -/
theorem Misused.kind_eq (misused : Misused kernel operation misuse) :
    misuse.kind = misuse.fault.faultClass := by
  cases misused with
  | noList | noString | listIndex | stringIndex | tooLong => rfl
  | listFull _ _ _ _ named => rw [named]; rfl
  | tooLongToJoin _ _ named => rw [named]; rfl

/-! ## The records of one operation -/

/-- The number of faults counted under a name, where there are counters. -/
def faultTotal? (kernel : Kernel) (name : Bytes) : Option UInt64 :=
  kernel.metrics.map (·.faultTotal name)

/-- The trace of an operation that was a misuse. Under the abort policy the
diagnostic is printed and the exit called for, under any other neither. -/
structure Recorded (kernel : Kernel) (misuse : Misuse) (next : Kernel) (outcome : Outcome) :
    Prop where
  told : outcome.result = .error (kernel.settings.failure misuse.fault)
  /-- However often it is wrapped, the failure is of the misuse's kind only. -/
  classified : ∀ failure texts wanted, outcome.result = .error failure →
    ((failure.wrapAll texts).isOf wanted = true ↔ wanted = misuse.kind)
  carried : ∀ failure texts, outcome.result = .error failure →
    (failure.wrapAll texts).exitCode? =
      if kernel.settings.policy = .abort then some kernel.settings.exitCode else none
  /-- The counter of the kind goes up by one, and no other counter of faults. -/
  counted : ∀ name, next.faultTotal? name =
    (kernel.faultTotal? name).map (· + if name = misuse.kind.label then 1 else 0)
  logged : outcome.effects.log =
    [{ level := .error
       fields := [
         ("msg", utf8 "container fault"),
         ("kind", misuse.kind.label),
         ("policy", kernel.settings.policy.name),
         ("err", misuse.fault.message)] }]
  one_line : (10 : UInt8) ∉ misuse.diagnostic
  printed : outcome.effects.stderr =
    if kernel.settings.policy = .abort then misuse.diagnostic ++ utf8 "\n" else []
  exited : outcome.effects.exits =
    if kernel.settings.policy = .abort then [kernel.settings.exitCode] else []

/-- The trace of an operation that succeeded: there is none. -/
structure Unrecorded (kernel next : Kernel) (outcome : Outcome) : Prop where
  answered : ∃ reply, outcome.result = .ok reply
  uncounted : ∀ name, next.faultTotal? name = kernel.faultTotal? name
  silent : outcome.effects = {}

/-- An operation that is done counts no fault. -/
theorem Done.faults {reply : Reply} (done : Done kernel operation next reply) :
    next.metrics.map Metrics.faults = kernel.metrics.map Metrics.faults := by
  cases done with
  | read | listMade => rfl
  | stringMade text =>
    simp only [observe, add, Option.map_map]
    refine Option.map_congr fun metrics _ => ?_
    exact Metrics.faults_of_withFaults (fun metrics => (metrics.observeString text.length).1)
      (fun metrics faults => metrics.observeString_withFaults faults text.length) metrics
  | @appended _ _ _ _ events =>
    simp only [observe, setList, Option.map_map]
    refine Option.map_congr fun metrics _ => ?_
    exact Metrics.faults_of_withFaults
      (fun metrics => events.foldl Metrics.observeListEvent metrics)
      (fun metrics faults => metrics.foldl_withFaults faults events) metrics

/-- Kernels with the same counters of faults have the same totals. -/
theorem faultTotal?_of_faults (same : next.metrics.map Metrics.faults =
    kernel.metrics.map Metrics.faults) (name : Bytes) :
    next.faultTotal? name = kernel.faultTotal? name := by
  have total := congrArg (Option.map fun faults =>
    ((List.lookup name faults).getD ({} : Counter)).total) same
  simp only [Option.map_map] at total
  exact total

/-- A misuse is recorded by its report. -/
theorem recorded_report (misused : Misused kernel operation misuse) :
    Recorded kernel misuse (kernel.report misuse).1 (kernel.report misuse).2 := by
  have told := report_result kernel misuse
  refine ⟨told, ?_, ?_, ?_, ?_, misused.one_line, ?_, ?_⟩
  · intro failure texts wanted failed
    cases told.symm.trans failed
    rw [Failure.isOf_wrapAll, Settings.failure_isOf, misused.kind_eq]
  · intro failure texts failed
    cases told.symm.trans failed
    rw [Failure.exitCode?_wrapAll, Settings.failure_exitCode?]
  · intro name
    rw [report_kernel]
    simp only [faultTotal?, observe, Option.map_map]
    congr 1
    funext metrics
    exact metrics.faultTotal_observeFault misuse.kind name
  all_goals
    unfold report
    split <;> rfl

/-- An operation leaves the trace of one misuse, or it succeeds and leaves none. -/
theorem step_recorded (kernel : Kernel) (operation : Operation) :
    Unrecorded kernel (kernel.step operation).1 (kernel.step operation).2 ∨
    ∃ misuse, Misused kernel operation misuse ∧
      Recorded kernel misuse (kernel.step operation).1 (kernel.step operation).2 := by
  obtain ⟨next, reply, done, stepped⟩ | ⟨misuse, failed, stepped⟩ := step_cases kernel operation
  · rw [stepped]
    exact .inl ⟨⟨reply, rfl⟩, faultTotal?_of_faults done.faults, rfl⟩
  · rw [stepped]
    have misused := attempt_misused failed
    exact .inr ⟨misuse, misused, recorded_report misused⟩

end Kernel

/-! ## The records of a run -/

/-- Whether the caller was told of a failure of the class. -/
def Outcome.isOf (wanted : FaultClass) (outcome : Outcome) : Bool :=
  match outcome.result with
  | .ok _ => false
  | .error failure => failure.isOf wanted

namespace Kernel

variable {kernel next : Kernel} {misuse : Misuse} {outcome : Outcome}

/-- Success is not failure. -/
theorem Unrecorded.not_failed (unrecorded : Unrecorded kernel next outcome) :
    outcome.failed = false := by
  obtain ⟨reply, answered⟩ := unrecorded.answered
  simp [Outcome.failed, answered]

/-- What is recorded has failed. -/
theorem Recorded.failed (recorded : Recorded kernel misuse next outcome) :
    outcome.failed = true := by
  simp [Outcome.failed, recorded.told]

/-- An operation is logged once if it fails and not at all if it succeeds. -/
theorem step_log_length (kernel : Kernel) (operation : Operation) :
    (kernel.step operation).2.effects.log.length =
      if (kernel.step operation).2.failed then 1 else 0 := by
  obtain unrecorded | ⟨misuse, _, recorded⟩ := step_recorded kernel operation
  · simp [unrecorded.not_failed, unrecorded.silent]
  · simp [recorded.failed, recorded.logged]

/-- An operation raises the total of a class by one exactly if the caller is told
of a failure of the class. -/
theorem step_faultTotal? (kernel : Kernel) (operation : Operation) (faultClass : FaultClass) :
    (kernel.step operation).1.faultTotal? faultClass.label =
      (kernel.faultTotal? faultClass.label).map
        (· + if (kernel.step operation).2.isOf faultClass then 1 else 0) := by
  obtain unrecorded | ⟨misuse, misused, recorded⟩ := step_recorded kernel operation
  · obtain ⟨reply, answered⟩ := unrecorded.answered
    simp [unrecorded.uncounted, Outcome.isOf, answered]
  · rw [recorded.counted]
    have same : faultClass.label = misuse.kind.label ↔
        (kernel.step operation).2.isOf faultClass = true := by
      simp only [Outcome.isOf, recorded.told, Settings.failure_isOf, ← misused.kind_eq]
      exact ⟨FaultClass.label_injective, congrArg FaultClass.label⟩
    simp only [same]

/-- The totals after a run: those before it and one for each failure of the
class. -/
theorem run_faultTotal? (kernel : Kernel) (operations : List Operation)
    (faultClass : FaultClass) :
    (kernel.run operations).1.faultTotal? faultClass.label =
      (kernel.faultTotal? faultClass.label).map
        (· + UInt64.ofNat ((kernel.run operations).2.countP (Outcome.isOf faultClass))) := by
  induction operations generalizing kernel with
  | nil => simp
  | cons operation rest inductionHypothesis =>
    rw [run_cons, inductionHypothesis, step_faultTotal?, Option.map_map, List.countP_cons]
    refine Option.map_congr fun total _ => ?_
    simp only [Function.comp_apply, UInt64.ofNat_add]
    split
    · rw [UInt64.add_assoc, UInt64.add_comm 1]
      rfl
    · simp

/-- A run logs one line for each failure. -/
theorem run_log_length (kernel : Kernel) (operations : List Operation) :
    ((kernel.run operations).2.flatMap (·.effects.log)).length =
      ((kernel.run operations).2.filter Outcome.failed).length := by
  induction operations generalizing kernel with
  | nil => rfl
  | cons operation rest inductionHypothesis =>
    rw [run_cons, List.flatMap_cons, List.length_append, inductionHypothesis, step_log_length,
      List.filter_cons]
    split
    · rw [List.length_cons, Nat.add_comm]
    · rw [Nat.zero_add]

/-- Under the abort policy a run calls for one exit for each failure. -/
theorem run_exits (kernel : Kernel) (operations : List Operation)
    (aborts : kernel.settings.policy = .abort) :
    (kernel.run operations).2.flatMap (·.effects.exits) =
      List.replicate ((kernel.run operations).2.filter Outcome.failed).length
        kernel.settings.exitCode := by
  induction operations generalizing kernel with
  | nil => rfl
  | cons operation rest inductionHypothesis =>
    have later := inductionHypothesis (kernel.step operation).1 (by rw [settings_step, aborts])
    rw [settings_step] at later
    rw [run_cons, List.flatMap_cons, later, List.filter_cons]
    obtain unrecorded | ⟨misuse, _, recorded⟩ := step_recorded kernel operation
    · simp [unrecorded.not_failed, unrecorded.silent]
    · simp [recorded.failed, recorded.exited, aborts, List.replicate_succ]

/-- Under the abort policy a run prints one line for each failure, in order. -/
theorem run_stderr (kernel : Kernel) (operations : List Operation)
    (aborts : kernel.settings.policy = .abort) :
    ∃ lines : List Bytes, (∀ line ∈ lines, (10 : UInt8) ∉ line) ∧
      ((kernel.run operations).2.filter Outcome.failed).map (·.effects.stderr) =
        lines.map (· ++ utf8 "\n") ∧
      (kernel.run operations).2.flatMap (·.effects.stderr) =
        lines.flatMap (· ++ utf8 "\n") := by
  induction operations generalizing kernel with
  | nil => exact ⟨[], by simp, rfl, rfl⟩
  | cons operation rest inductionHypothesis =>
    obtain ⟨lines, single, each, all⟩ :=
      inductionHypothesis (kernel.step operation).1 (by rw [settings_step, aborts])
    rw [run_cons]
    obtain unrecorded | ⟨misuse, _, recorded⟩ := step_recorded kernel operation
    · refine ⟨lines, single, ?_, ?_⟩
      · simp [unrecorded.not_failed, each]
      · simp [unrecorded.silent, all]
    · have printed := recorded.printed
      rw [if_pos aborts] at printed
      refine ⟨misuse.diagnostic :: lines, ?_, ?_, ?_⟩
      · exact List.forall_mem_cons.mpr ⟨recorded.one_line, single⟩
      · rw [List.filter_cons, if_pos recorded.failed, List.map_cons, List.map_cons, printed, each]
      · rw [List.flatMap_cons, List.flatMap_cons, printed, all]

/-- Under a policy that does not abort a run prints nothing and calls for no
exit. -/
theorem run_quiet (kernel : Kernel) (operations : List Operation)
    (returns : kernel.settings.policy ≠ .abort) :
    (kernel.run operations).2.flatMap (·.effects.stderr) = [] ∧
      (kernel.run operations).2.flatMap (·.effects.exits) = [] := by
  induction operations generalizing kernel with
  | nil => exact ⟨rfl, rfl⟩
  | cons operation rest inductionHypothesis =>
    obtain ⟨printed, exited⟩ :=
      inductionHypothesis (kernel.step operation).1 (by rwa [settings_step])
    rw [run_cons, List.flatMap_cons, List.flatMap_cons, printed, exited]
    obtain unrecorded | ⟨misuse, _, recorded⟩ := step_recorded kernel operation
    · simp [unrecorded.silent]
    · simp [recorded.printed, recorded.exited, returns]

/-- After any run, the next operation succeeds without a trace or fails with the
trace of exactly one misuse; and the run's own records are one for each of its
failures. A machine, which counts, logs, prints and exits by separate actions, comes
out of the run with the same records, as long as the next handle is a word. -/
theorem faults_recorded_once (settings : Settings) (metrics : Option Metrics)
    (operations : List Operation) :
    let kernel := ((start settings metrics).run operations).1
    let outcomes := ((start settings metrics).run operations).2
    let failing := outcomes.filter Outcome.failed
    kernel.settings = settings.effective ∧
    (∀ operation,
      ((kernel.step operation).2.failed = true ↔
        (kernel.step operation).2.effects.log.length = 1) ∧
      (Unrecorded kernel (kernel.step operation).1 (kernel.step operation).2 ∨
        ∃ misuse, Misused kernel operation misuse ∧
          Recorded kernel misuse (kernel.step operation).1 (kernel.step operation).2)) ∧
    (∀ faultClass, kernel.faultTotal? faultClass.label = metrics.map fun initial =>
      initial.faultTotal faultClass.label +
        UInt64.ofNat (outcomes.countP (Outcome.isOf faultClass))) ∧
    (outcomes.flatMap (·.effects.log)).length = failing.length ∧
    (settings.effective.policy = .abort →
      settings.effective.exitCode ≠ 0 ∧
      outcomes.flatMap (·.effects.exits) =
        List.replicate failing.length settings.effective.exitCode ∧
      ∃ lines : List Bytes, (∀ line ∈ lines, (10 : UInt8) ∉ line) ∧
        failing.map (·.effects.stderr) = lines.map (· ++ utf8 "\n") ∧
        outcomes.flatMap (·.effects.stderr) = lines.flatMap (· ++ utf8 "\n")) ∧
    (settings.effective.policy ≠ .abort →
      outcomes.flatMap (·.effects.stderr) = [] ∧ outcomes.flatMap (·.effects.exits) = []) ∧
    ((kernel.containers.size : Int) < Word.largest →
      ((Machine.start settings metrics).run operations).2 = outcomes ∧
      ((Machine.start settings metrics).run operations).1.metrics = kernel.metrics) := by
  intro kernel outcomes failing
  refine ⟨settings_run _ operations, ?_, ?_, run_log_length _ operations, ?_, ?_, ?_⟩
  · intro operation
    refine ⟨?_, step_recorded kernel operation⟩
    rw [step_log_length]
    split <;> simp_all
  · intro faultClass
    have totals := run_faultTotal? (start settings metrics) operations faultClass
    exact totals.trans (Option.map_map _ _ metrics)
  · intro aborts
    exact ⟨settings.effective_exitCode_ne_zero aborts,
      run_exits (start settings metrics) operations aborts,
      run_stderr (start settings metrics) operations aborts⟩
  · exact run_quiet (start settings metrics) operations
  · intro room
    obtain ⟨answers, same⟩ := Machine.run_represents (.start settings metrics) operations room
    exact ⟨answers, same.metrics⟩

/-- Settings without a policy and without an exit code abort with exit code one:
two bad handles at once and a bad index are two faults, with two exits, two log
lines and a count of one under each of the two kinds. -/
theorem two_faults_two_exits :
    let settings : Settings := { policy := .unknown [], exitCode := 0 }
    let operations : List Operation := [.stringConcat 1 2, .listNew, .listAt 1 0]
    let kernel := ((start settings (some {})).run operations).1
    let outcomes := ((start settings (some {})).run operations).2
    let line (kind err : String) : LogLine :=
      { level := .error
        fields := [
          ("msg", utf8 "container fault"),
          ("kind", utf8 kind),
          ("policy", utf8 "abort"),
          ("err", utf8 err)] }
    settings.effective.policy = .abort ∧
      (outcomes.filter Outcome.failed).length = 2 ∧
      outcomes.flatMap (·.effects.exits) = List.replicate 2 1 ∧
      outcomes.flatMap (·.effects.log) =
        [line "handle" "String handle 1 is not defined",
          line "index" "list index 0 out of bounds for length 0"] ∧
      kernel.faultTotal? (utf8 "handle") = some 1 ∧
      kernel.faultTotal? (utf8 "index") = some 1 ∧
      kernel.faultTotal? (utf8 "allocation") = some 0 ∧
      ((Machine.start settings (some {})).run operations).2 = outcomes := by
  intro settings operations kernel outcomes line
  have aborts : settings.effective.policy = .abort := by decide
  have failing : (outcomes.filter Outcome.failed).length = 2 := by decide
  obtain ⟨_, _, totals, _, aborted, _, machines⟩ :=
    faults_recorded_once settings (some {}) operations
  refine ⟨aborts, failing, ?_, by decide, ?_, ?_, ?_, (machines (by decide)).1⟩
  · rw [(aborted aborts).2.1, failing]
    rfl
  · exact (totals .handle).trans (by decide)
  · exact (totals .index).trans (by decide)
  · exact (totals .allocation).trans (by decide)

end Kernel

end ContainerKernel
