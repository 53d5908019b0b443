import ContainerKernel.Proofs.DraftChecks
import ContainerKernel.Proofs.HandleTable
import ContainerKernel.Proofs.NamedContents

/-!
# The state of a run is sound

Three tables grow together while a scenario runs: the names of containers, the names
of host handles, and the containers themselves. A state is `Sound` if they fit: names
reach containers, host handles are told apart by their names, and what lists hold
points at containers and host handles that are there. Every step keeps this, however it
ends: a host handle may be used for the first time by a value or by an expectation,
also in a step that fails, and it is never taken back.

Nothing is assumed about the steps here. A run that is cut short is sound as well,
because it is the run of fewer steps.
-/

namespace ContainerKernel

/-! ## Items of lists -/

namespace Kernel

variable {kernel : Kernel} {operation : Operation} {handle : Int}

/-- The items of the list at a handle; where there is no list there are none. -/
def itemsAt (kernel : Kernel) (handle : Int) : List Value :=
  match kernel.container? handle with
  | some (.list stored) => stored.items.toList
  | _ => []

/-- What an operation adds to the list at a handle. -/
def gained (kernel : Kernel) (handle : Int) (operation : Operation) : List Value :=
  match operation, (kernel.step operation).2.result with
  | .listAppend target value, .ok _ => if target = handle then [value.getD .nil] else []
  | _, _ => []

/-- Nothing is gained but the value of an append to the handle. -/
theorem gained_cases (kernel : Kernel) (handle : Int) (operation : Operation) :
    kernel.gained handle operation = [] ∨
      ∃ value, operation = .listAppend handle value ∧
        kernel.gained handle operation = [value.getD .nil] := by
  unfold gained
  split
  · next target value _ _ =>
    split
    · next same =>
      subst same
      exact .inr ⟨value, rfl, rfl⟩
    · exact .inl rfl
  · exact .inl rfl

/-- A new container without items leaves the items of all lists as they are. -/
theorem itemsAt_add {added : Container}
    (empty : ∀ stored, added = .list stored → stored.items.toList = []) (handle : Int) :
    (kernel.add added).1.itemsAt handle = kernel.itemsAt handle := by
  unfold itemsAt
  rw [container?_add]
  by_cases same : handle = kernel.containers.size + 1
  · subst same
    rw [if_pos rfl, container?_next]
    cases added with
    | list stored => exact empty stored rfl
    | string text => rfl
  · rw [if_neg same]

/-- Lists change in one way: an operation adds what it gains. -/
theorem itemsAt_step (kernel : Kernel) (operation : Operation) (handle : Int) :
    (kernel.step operation).1.itemsAt handle =
      kernel.itemsAt handle ++ kernel.gained handle operation := by
  unfold gained
  obtain ⟨next, reply, done, stepped⟩ | ⟨misuse, _, stepped⟩ := step_cases kernel operation
  · rw [stepped]
    cases done with
    | read _ reads =>
      cases operation with
      | listAppend => cases reads
      | listNew | listAt | listLength | listItems | stringNew | stringAdd | stringConcat
      | stringLength | stringAt | stringBytes => exact (List.append_nil _).symm
    | listMade =>
      rw [List.append_nil]
      exact itemsAt_add (by rintro stored ⟨⟩; rfl) handle
    | stringMade text built =>
      cases operation with
      | listAppend => cases built
      | listNew | listAt | listLength | listItems | stringNew | stringAdd | stringConcat
      | stringLength | stringAt | stringBytes =>
        rw [List.append_nil]
        exact itemsAt_add (by rintro stored ⟨⟩) handle
    | @appended target value contents grown events live grew =>
      have items : grown.items.toList = contents.items.toList ++ [value.getD .nil] := by
        have free := (DynamicList.append_ok grew).1
        have whole := contents.appended_items (value.getD .nil)
        rw [if_neg free, DynamicList.appended, grew] at whole
        exact whole
      have counted : (kernel.observe fun metrics =>
          events.foldl Metrics.observeListEvent metrics).container? target =
          some (.list contents) := live
      unfold itemsAt
      rw [container?_setList target counted]
      dsimp only
      by_cases same : handle = target
      · subst same
        rw [if_pos rfl, if_pos rfl, live]
        exact items
      · rw [if_neg same, if_neg (Ne.symm same), List.append_nil, container?_observe]
  · rw [stepped, report_result, report_kernel]
    cases operation <;> exact (List.append_nil _).symm

/-- A live handle stays live. -/
theorem kind?_step_isSome (operation : Operation)
    (live : (kernel.kind? handle).isSome = true) :
    ((kernel.step operation).1.kind? handle).isSome = true := by
  unfold kind? at live ⊢
  cases found : kernel.container? handle with
  | none =>
    rw [found] at live
    cases live
  | some contents =>
    rw [container?_step operation found]
    rfl

/-- The handle of a new container is live. -/
theorem kind?_of_made (made : (kernel.step operation).2.result = .ok (.handle handle)) :
    ((kernel.step operation).1.kind? handle).isSome = true := by
  obtain ⟨next, size⟩ := size_of_handle made
  rw [kind?_isSome_iff, size]
  omega

end Kernel

/-- The value points at nothing. -/
def Value.isPlain : Value → Bool
  | .nil | .bool _ | .integer _ | .byte _ => true
  | .string _ | .list _ | .host _ => false

/-- A description that is to be taken as it stands gives a value that points at
nothing. -/
theorem ValueSpec.isPlain_of_meaning (spec : ValueSpec) {value : Value}
    (means : spec.meaning = .plain value) : value.isPlain = true := by
  unfold meaning at means
  repeat' split at means
  all_goals cases means <;> rfl

namespace Replay

variable {replay named : Replay} {step : Step} {operation : Operation} {handle : Int}

/-! ## Host handles -/

/-- The host handle that a name stands for, once it has been used. -/
def hostHandle? (replay : Replay) (name : Bytes) : Option HostHandle :=
  (replay.hosts.findIdx? (· = name)).map fun (index : Nat) => ⟨index, name⟩

/-- A name that has been used stands for its handle, and using it again changes
nothing. -/
theorem host_of_used {name : Bytes} {host : HostHandle}
    (used : replay.hostHandle? name = some host) :
    replay.host name = (replay, .host (some host)) := by
  obtain ⟨index, found, rfl⟩ := Option.map_eq_some_iff.mp used
  unfold Replay.host
  rw [found]

/-- The first use of a name makes a handle with an identity of its own. -/
theorem host_of_unused {name : Bytes} (unused : replay.hostHandle? name = none) :
    replay.host name = ({ replay with hosts := replay.hosts ++ [name] },
      .host (some ⟨replay.hosts.length, name⟩)) := by
  unfold Replay.host
  rw [Option.map_eq_none_iff.mp unused]

/-- The handle of a name is at the place of that name. -/
theorem hostHandle?_place {name : Bytes} {host : HostHandle}
    (used : replay.hostHandle? name = some host) :
    host.type = name ∧ ∃ place : Nat, host.identity = place ∧ replay.hosts[place]? = some name := by
  obtain ⟨place, found, rfl⟩ := Option.map_eq_some_iff.mp used
  obtain ⟨inside, same, _⟩ := List.findIdx?_eq_some_iff_getElem.mp found
  refine ⟨rfl, place, rfl, ?_⟩
  rw [List.getElem?_eq_getElem inside, of_decide_eq_true same]

/-- Every name that has been used has a handle. -/
theorem hostHandle?_of_mem {name : Bytes} (member : name ∈ replay.hosts) :
    ∃ host, replay.hostHandle? name = some host := by
  cases found : replay.hostHandle? name with
  | some host => exact ⟨host, rfl⟩
  | none =>
    have unused := List.findIdx?_eq_none_iff.mp (Option.map_eq_none_iff.mp found) name member
    simp at unused

/-- Handles of different names are different. -/
theorem hostHandle?_apart {first second : Bytes} {one other : HostHandle}
    (used : replay.hostHandle? first = some one) (usedToo : replay.hostHandle? second = some other)
    (same : one.identity = other.identity) : first = second := by
  obtain ⟨_, place, identity, found⟩ := hostHandle?_place used
  obtain ⟨_, placeToo, identityToo, foundToo⟩ := hostHandle?_place usedToo
  have equal : place = placeToo := by omega
  subst equal
  exact Option.some.inj (found.symm.trans foundToo)

/-- Handles stay what they are when more names are used. -/
theorem hostHandle?_extended {name : Bytes} {host : HostHandle}
    (extended : replay.hosts <+: named.hosts) (used : replay.hostHandle? name = some host) :
    named.hostHandle? name = some host := by
  obtain ⟨added, whole⟩ := extended
  obtain ⟨index, found, rfl⟩ := Option.map_eq_some_iff.mp used
  unfold hostHandle?
  rw [← whole, List.findIdx?_append, found]
  rfl

/-! ### No name is used for the first time twice -/

/-- Using a name adds it only if it is new. -/
theorem nodup_host (distinct : replay.hosts.Nodup) (name : Bytes) :
    (replay.host name).1.hosts.Nodup := by
  cases used : replay.hostHandle? name with
  | some host =>
    rw [host_of_used used]
    exact distinct
  | none =>
    rw [host_of_unused used]
    have fresh : name ∉ replay.hosts := by
      intro member
      obtain ⟨host, found⟩ := hostHandle?_of_mem member
      cases used.symm.trans found
    exact List.nodup_append.mpr ⟨distinct, List.nodup_singleton name, by
      rintro other member _ new rfl
      exact fresh (List.mem_singleton.mp new ▸ member)⟩

/-! ## What descriptions stand for -/

/-- The ways in which a description, or none, comes to a value. -/
inductive Resolved (replay : Replay) (spec : Option ValueSpec) : Replay → Value → Prop where
  | plain {value : Value} (plain : value.isPlain = true) : Resolved replay spec replay value
  | list {name : Bytes} {handle : Int} (known : replay.refs.lookup name = some handle) :
      Resolved replay spec replay (.list handle)
  | string {name : Bytes} {handle : Int} (known : replay.refs.lookup name = some handle) :
      Resolved replay spec replay (.string handle)
  | host {described : ValueSpec} {name : Bytes} (given : spec = some described)
      (means : described.meaning = .host name) :
      Resolved replay spec (replay.host name).1 (replay.host name).2

/-- A value is come to in one of these ways. -/
theorem resolved_of_valueOrNil {spec : Option ValueSpec} {value : Value}
    (found : replay.valueOrNil spec = .ok (named, value)) : Resolved replay spec named value := by
  cases spec with
  | none =>
    cases found
    exact .plain rfl
  | some described =>
    simp only [valueOrNil] at found
    cases means : described.meaning with
    | plain plain =>
      rw [means] at found
      cases found
      exact .plain (described.isPlain_of_meaning means)
    | list name =>
      rw [means, lookUp] at found
      cases known : replay.handle name with
      | error mismatch =>
        rw [known] at found
        cases found
      | ok handle =>
        rw [known] at found
        cases found
        exact .list ((handle_ok_iff replay name handle).mp known)
    | string name =>
      rw [means, lookUp] at found
      cases known : replay.handle name with
      | error mismatch =>
        rw [known] at found
        cases found
      | ok handle =>
        rw [known] at found
        cases found
        exact .string ((handle_ok_iff replay name handle).mp known)
    | host name =>
      rw [means] at found
      have same : replay.host name = (named, value) := Except.ok.inj found
      have resolved : Resolved replay (some described) _ _ := .host rfl means
      rw [same] at resolved
      exact resolved
    | unusable text =>
      rw [means] at found
      cases found

/-- Coming to a value uses a name for the first time at most. -/
theorem Resolved.distinct {spec : Option ValueSpec} {value : Value}
    (resolved : Resolved replay spec named value) (distinct : replay.hosts.Nodup) :
    named.hosts.Nodup := by
  cases resolved with
  | plain | list | string => exact distinct
  | host => exact nodup_host distinct _

/-- Coming to an operation uses a name for the first time at most. -/
theorem Asked.distinct (asked : Asked replay step named operation)
    (distinct : replay.hosts.Nodup) : named.hosts.Nodup := by
  cases asked with
  | listAppend _ _ found => exact (resolved_of_valueOrNil found).distinct distinct
  | listNew | listAt | listLength | stringNew | stringAdd | stringConcat | stringLength
  | stringAt => exact distinct

/-- Comparing a value uses a name for the first time at most. -/
theorem checkValue_distinct (distinct : replay.hosts.Nodup) (step : Step) (reply : Reply) :
    (replay.checkValue step reply).1.hosts.Nodup := by
  unfold checkValue
  split
  · exact distinct
  · next spec _ =>
    split
    · exact distinct
    · next named want found =>
      have resolved : Resolved replay (some spec) named want := resolved_of_valueOrNil found
      dsimp only
      split <;> exact resolved.distinct distinct

/-- Comparing a text uses no name of a host handle. -/
theorem checkText_hosts (replay : Replay) (step : Step) (reply : Reply) :
    (replay.checkText step reply).1.hosts = replay.hosts := by
  unfold checkText
  split
  · rfl
  · split
    · next handle =>
      have read : (replay.perform (.stringBytes handle)).1.hosts = replay.hosts := rfl
      split
      · rfl
      · split <;> next looked =>
          rw [looked] at read
          exact read
    · rfl

/-- Looking at a whole result uses a name for the first time at most. -/
theorem checkResult_distinct {result : Except Failure Reply} (distinct : replay.hosts.Nodup) :
    (replay.checkResult step result).1.hosts.Nodup := by
  have replied : ∀ reply, (replay.checkReply step reply).1.hosts.Nodup := by
    intro reply
    have valued := checkValue_distinct distinct step reply
    unfold checkReply
    split
    · next named _ same =>
      rw [same] at valued
      exact valued
    · next named same =>
      rw [same] at valued
      have texted := checkText_hosts named step reply
      split
      · exact valued
      · split
        · next read _ looked =>
          rw [looked] at texted
          exact texted ▸ valued
        · next read looked =>
          rw [looked] at texted
          exact texted ▸ valued
  unfold checkResult
  split
  · exact distinct
  · cases result with
    | error failure => exact distinct
    | ok reply => exact replied reply

/-- A whole step keeps the names of host handles distinct. -/
theorem run_distinct (distinct : replay.hosts.Nodup) (step : Step) :
    (replay.run step).1.hosts.Nodup := by
  unfold Replay.run
  cases found : replay.operation step with
  | error mismatch => exact distinct
  | ok answer =>
    obtain ⟨named, operation⟩ := answer
    have kept : named.hosts.Nodup := (asked_of_operation found).distinct distinct
    apply checkResult_distinct
    rw [bind_eq]
    exact kept

/-! ## Sound states -/

/-- What a list may hold: a value that points at nothing, a handle that names a
container, or a host handle that a name stands for. -/
def Keeps (replay : Replay) : Value → Prop
  | .nil | .bool _ | .integer _ | .byte _ => True
  | .list handle | .string handle => (replay.kernel.kind? handle).isSome = true
  | .host none => False
  | .host (some host) => ∃ name ∈ replay.hosts, replay.hostHandle? name = some host

/-- The tables of a state fit together. -/
structure Sound (replay : Replay) : Prop where
  /-- Every name of a container reaches one. -/
  refs : ∀ name handle, replay.refs.lookup name = some handle →
    (replay.kernel.kind? handle).isSome = true
  /-- No name of a host handle is used for the first time twice. -/
  distinct : replay.hosts.Nodup
  /-- Every item of a list is one that a list may hold. -/
  items : ∀ handle, ∀ value ∈ replay.kernel.itemsAt handle, replay.Keeps value

/-- A value that may be held may be held later, when no container is gone and more host
handles are used. -/
theorem Keeps.later {value : Value} (keeps : replay.Keeps value)
    (live : ∀ handle, (replay.kernel.kind? handle).isSome = true →
      (named.kernel.kind? handle).isSome = true)
    (extended : replay.hosts <+: named.hosts) : named.Keeps value := by
  cases value with
  | nil | bool | integer | byte => trivial
  | list handle | string handle => exact live handle keeps
  | host handle =>
    cases handle with
    | none => exact keeps
    | some host =>
      obtain ⟨name, member, used⟩ := keeps
      exact ⟨name, extended.subset member, hostHandle?_extended extended used⟩

/-- A description in a sound state comes to a value that may be held. -/
theorem Resolved.keeps {spec : Option ValueSpec} {value : Value}
    (resolved : Resolved replay spec named value) (sound : Sound replay) : named.Keeps value := by
  cases resolved with
  | plain plain =>
    cases value with
    | nil | bool | integer | byte => trivial
    | string | list | host => cases plain
  | list known | string known => exact sound.refs _ _ known
  | @host described name given means =>
    cases used : replay.hostHandle? name with
    | some host =>
      rw [host_of_used used]
      obtain ⟨_, place, _, found⟩ := hostHandle?_place used
      exact ⟨name, List.mem_of_getElem? found, used⟩
    | none =>
      rw [host_of_unused used]
      refine ⟨name, by simp, ?_⟩
      simp only [hostHandle?, List.findIdx?_append, Option.map_eq_none_iff.mp used]
      simp

/-- A step keeps a state sound, whatever comes of it. -/
theorem Sound.run (sound : Sound replay) (step : Step) : Sound (replay.run step).1 := by
  obtain ⟨mismatch, _, same⟩ | ⟨named, operation, found, performed⟩ := run_cases replay step
  · rw [same]
    exact sound
  have asked : Asked replay step named operation := asked_of_operation found
  have live : ∀ handle, (replay.kernel.kind? handle).isSome = true →
      ((replay.run step).1.kernel.kind? handle).isSome = true := by
    intro handle alive
    rw [performed.kernel]
    exact Kernel.kind?_step_isSome operation alive
  refine ⟨?refs, run_distinct sound.distinct step, ?items⟩
  case refs =>
    intro name handle known
    rw [performed.refs] at known
    unfold boundRefs at known
    split at known
    · next made answered =>
      rw [List.lookup_cons] at known
      split at known
      · cases known
        rw [performed.kernel]
        exact Kernel.kind?_of_made answered
      · exact live handle (sound.refs name handle known)
    · exact live handle (sound.refs name handle known)
  case items =>
    intro handle value member
    rw [performed.kernel, Kernel.itemsAt_step, List.mem_append] at member
    obtain old | new := member
    · exact (sound.items handle value old).later live (hosts_run found)
    · -- Only an append gains anything, and then its value is what the step describes.
      obtain nothing | ⟨given, rfl, one⟩ := replay.kernel.gained_cases handle operation
      · rw [nothing] at new
        cases new
      · rw [one, List.mem_singleton] at new
        have unchanged : named.kernel = replay.kernel := asked.extends.kernel
        cases asked with
        | listAppend _ _ described =>
          subst new
          refine ((resolved_of_valueOrNil described).keeps sound).later ?_ performed.hosts
          rw [unchanged]
          exact live

/-- Steps one after another keep a state sound. -/
theorem Sound.after (sound : Sound replay) (steps : List Step) : Sound (replay.after steps) := by
  induction steps generalizing replay with
  | nil => exact sound
  | cons step rest inductionHypothesis => exact inductionHypothesis (sound.run step)

/-- The state of a run is sound, with or without the log line at its end. -/
theorem Sound.runSteps (sound : Sound replay) (name : Bytes) (index : Nat) (steps : List Step) :
    Sound (Replay.runSteps name index steps replay).1 := by
  rw [runSteps_eq]
  dsimp only
  have reached := sound.after (steps.take (replay.executed steps).length)
  split
  · exact ⟨reached.refs, reached.distinct, reached.items⟩
  · exact reached

end Replay

namespace Scenario

/-- Before the first step there are no lists. -/
theorem itemsAt_replay (scenario : Scenario) (metrics : Option Metrics) (handle : Int) :
    (scenario.replay metrics).kernel.itemsAt handle = [] := by
  unfold Kernel.itemsAt Kernel.container?
  split_ifs
  · rfl
  · rfl

/-- The state before the first step is sound: its tables are empty. -/
theorem replay_sound (scenario : Scenario) (metrics : Option Metrics) :
    (scenario.replay metrics).Sound where
  refs _ _ known := by cases known
  distinct := List.nodup_nil
  items handle value member := by
    rw [itemsAt_replay] at member
    cases member

end Scenario

end ContainerKernel
