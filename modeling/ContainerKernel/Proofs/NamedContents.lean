import ContainerKernel.Proofs.EarlyExit
import ContainerKernel.Proofs.ListHistory

/-!
# What the names of a scenario stand for

A reader of a scenario thinks of names that have contents: a list that grows, or
a text. This module makes that reading precise. An `Environment` gives the
contents of names, and `Environment.step` says by recursion over the steps what
becomes of it, without handles, replies, faults or expectations. The main
statement is that a run in which faults are returned arrives at the contents that
the environment gives.

What stands between the two is sharing. A list is changed in place and is found
through a handle, so an append through one name would change another name for the
same list. That there are no two names for one container is part of the invariant
`Represents`: a name is bound to new containers only.

A list inside a list is not looked into. Its item is the creation number of the
container that had the name when the item was added; what the name stands for
later plays no part. Host handles are recorded by their names.
-/

namespace ContainerKernel

/-! ## Environments -/

/-- An item of a list as a scenario describes it. -/
inductive Item where
  | plain (value : Value)
  /-- The list or string with the creation number. -/
  | list (number : Nat)
  | string (number : Nat)
  | host (name : Bytes)
deriving DecidableEq, Repr

/-- What a name stands for. -/
inductive Contents where
  | list (items : List Item)
  | string (text : Bytes)
deriving DecidableEq, Repr

/-- A container that has a name: its creation number, and what it holds. -/
structure Bound where
  number : Nat
  contents : Contents
deriving DecidableEq, Repr

/-- The text of a named container, unless it is a list. -/
def Contents.text? : Contents → Option Bytes
  | .list _ => none
  | .string text => some text

/-- The contents of names, and the number of containers made so far. -/
structure Environment where
  made : Nat := 0
  named : Bytes → Option Bound := fun _ => none

/-- Whether a step joins two texts. -/
def StepOperation.joins : StepOperation → Bool
  | .stringAdd | .stringConcat => true
  | _ => false

/-- Whether a step is to make a text. -/
def StepOperation.makesText : StepOperation → Bool
  | .stringNew | .stringAdd | .stringConcat => true
  | _ => false

namespace Environment

/-- A new container takes over the name. -/
def bind (env : Environment) (ref : Bytes) (contents : Contents) : Environment where
  made := env.made + 1
  named name := if name = ref then some ⟨env.made + 1, contents⟩ else env.named name

/-- The named container gets other contents. -/
def update (env : Environment) (target : Bytes) (bound : Bound) : Environment :=
  { env with named := fun name => if name = target then some bound else env.named name }

/-- The text that a name stands for. -/
def text? (env : Environment) (name : Bytes) : Option Bytes :=
  (env.named name).bind fun bound => bound.contents.text?

/-- The item that a description gives: it has none if it uses an unknown name or
is unusable. -/
def item? (env : Environment) : Option ValueSpec → Option Item
  | none => some (.plain .nil)
  | some spec =>
    match spec.meaning with
    | .plain value => some (.plain value)
    | .list name => (env.named name).map fun bound => .list bound.number
    | .string name => (env.named name).map fun bound => .string bound.number
    | .host name => some (.host name)
    | .unusable _ => none

/-- The text that a step is to make, if it names texts. -/
def built? (env : Environment) (step : Step) : Option Bytes :=
  match step.operation with
  | .stringNew => some (terminated step.text)
  | .stringAdd => (env.text? step.target).map (· ++ terminated step.text)
  | .stringConcat =>
    (env.text? step.target).bind fun text => (env.text? step.other).map (text ++ ·)
  | _ => none

/-- The text that a step does make. -/
def stored? (env : Environment) (settings : Settings) (step : Step) : Option Bytes :=
  (env.built? step).filter (settings.allowsText step.operation.joins)

/-- An item more in the list that a name stands for, if there is room. -/
def append (env : Environment) (settings : Settings) (target : Bytes) (item? : Option Item) :
    Environment :=
  match env.named target, item? with
  | some ⟨number, .list items⟩, some item =>
    if (items.length : Int) < limitInForce settings.listLimit then
      env.update target ⟨number, .list (items ++ [item])⟩
    else env
  | _, _ => env

/-- What a step does to the contents of names. -/
def step (settings : Settings) (env : Environment) (step : Step) : Environment :=
  match step.operation with
  | .listNew => env.bind step.ref (.list [])
  | .listAppend => env.append settings step.target (env.item? step.value)
  | .stringNew | .stringAdd | .stringConcat =>
    match env.stored? settings step with
    | some text => env.bind step.ref (.string text)
    | none => env
  | _ => env

/-- What steps one after another do to the contents of names. -/
def after (settings : Settings) (env : Environment) (steps : List Step) : Environment :=
  steps.foldl (Environment.step settings) env

/-- No two names stand for the same container. -/
def Apart (env : Environment) : Prop :=
  ∀ first second bound other, env.named first = some bound → env.named second = some other →
    bound.number = other.number → first = second

/-- A name for a new container keeps the names apart, if no name has a later
number. -/
theorem apart_bind {env : Environment} (apart : env.Apart)
    (bounded : ∀ name bound, env.named name = some bound → bound.number ≤ env.made)
    (ref : Bytes) (contents : Contents) : (env.bind ref contents).Apart := by
  intro first second bound other knownFirst knownSecond same
  simp only [bind] at knownFirst knownSecond
  split at knownFirst <;> split at knownSecond
  · next isFirst isSecond => rw [isFirst, isSecond]
  · have small := bounded second other knownSecond
    cases knownFirst
    dsimp only at same
    omega
  · have small := bounded first bound knownFirst
    cases knownSecond
    dsimp only at same
    omega
  · exact apart first second bound other knownFirst knownSecond same

/-- Other contents of a named container keep the names apart. -/
theorem apart_update {env : Environment} {target : Bytes} {old new : Bound} (apart : env.Apart)
    (known : env.named target = some old) (same : new.number = old.number) :
    (env.update target new).Apart := by
  intro first second bound other knownFirst knownSecond equal
  simp only [update] at knownFirst knownSecond
  split at knownFirst <;> split at knownSecond
  · next isFirst isSecond => rw [isFirst, isSecond]
  · next isFirst _ =>
    cases knownFirst
    exact isFirst.trans (apart target second old other known knownSecond (same.symm.trans equal))
  · next _ isSecond =>
    cases knownSecond
    exact (apart first target bound old knownFirst known (equal.trans same)).trans isSecond.symm
  · exact apart first second bound other knownFirst knownSecond equal

end Environment

/-! ## Contents in the kernel -/

/-- The value that stands for an item in the kernel. A host handle is told from
others by its place among the names of host handles. -/
def Item.value? (hosts : List Bytes) : Item → Option Value
  | .plain value => some value
  | .list number => some (.list number)
  | .string number => some (.string number)
  | .host name => (hosts.findIdx? (· = name)).map fun (index : Nat) => .host (some ⟨index, name⟩)

/-- A container has exactly the contents. -/
def Contents.HeldBy (hosts : List Bytes) : Contents → Container → Prop
  | .list items, .list stored => stored.items.toList.map some = items.map (Item.value? hosts)
  | .string text, .string stored => stored.bytes = text
  | .list _, .string _ | .string _, .list _ => False

/-- More names of host handles leave the known ones where they are. -/
theorem Item.value?_extended {hosts more : List Bytes} (extended : hosts <+: more) {item : Item}
    {value : Value} (known : item.value? hosts = some value) : item.value? more = some value := by
  cases item with
  | plain | list | string => exact known
  | host name =>
    obtain ⟨added, rfl⟩ := extended
    obtain ⟨index, found, rfl⟩ := Option.map_eq_some_iff.mp known
    simp only [Item.value?, List.findIdx?_append, found, Option.some_or, Option.map_some]

/-- A container still holds the contents when more host handles have names. -/
theorem Contents.HeldBy.extended {hosts more : List Bytes} (extended : hosts <+: more)
    {contents : Contents} {container : Container} (held : contents.HeldBy hosts container) :
    contents.HeldBy more container := by
  cases contents with
  | string text =>
    cases container with
    | list => exact held
    | string => exact held
  | list items =>
    cases container with
    | string => exact held
    | list stored =>
      have known : ∀ item ∈ items, item.value? hosts = item.value? more := by
        intro item member
        have present : item.value? hosts ∈ stored.items.toList.map some := by
          rw [show stored.items.toList.map some = _ from held]
          exact List.mem_map_of_mem member
        obtain ⟨value, _, same⟩ := List.mem_map.mp present
        rw [← same]
        exact (Item.value?_extended extended same.symm).symm
      show stored.items.toList.map some = items.map (Item.value? more)
      rw [show stored.items.toList.map some = _ from held]
      exact List.map_congr_left known

/-- The text of contents is the text of the string that holds them. -/
theorem Contents.HeldBy.text {hosts : List Bytes} {kernel : Kernel} {handle : Int}
    {contents : Contents} {container : Container}
    (live : kernel.container? handle = some container) (held : contents.HeldBy hosts container) :
    kernel.text? handle = contents.text? := by
  unfold Kernel.text?
  rw [live]
  cases contents with
  | list items =>
    cases container with
    | list => rfl
    | string => exact held.elim
  | string text =>
    cases container with
    | list => exact held.elim
    | string stored => exact congrArg some held

/-! ## Names and contents agree -/

namespace Replay

variable {replay named : Replay} {step : Step} {operation : Operation} {env : Environment}
  {name : Bytes} {bound : Bound}

/-- A step that comes to an operation leaves what the operation leaves. -/
theorem run_performed (found : replay.operation step = .ok (named, operation)) :
    Performed replay step named operation (replay.run step).1 := by
  obtain ⟨mismatch, failed, _⟩ | ⟨other, performed, same, leaves⟩ := run_cases replay step
  · rw [found] at failed
    cases failed
  · rw [found] at same
    cases same
    exact leaves

/-- A step that comes to no operation leaves everything as it is. -/
theorem run_unasked {mismatch : Mismatch} (failed : replay.operation step = .error mismatch) :
    (replay.run step).1 = replay := by
  obtain ⟨_, _, same⟩ | ⟨other, performed, found, _⟩ := run_cases replay step
  · rw [same]
  · rw [failed] at found
    cases found

/-- Names of host handles are added only. -/
theorem hosts_run (found : replay.operation step = .ok (named, operation)) :
    replay.hosts <+: (replay.run step).1.hosts :=
  (asked_of_operation found).extends.hosts.trans (run_performed found).hosts

/-- The names of a run agree with an environment: they are the same, each of them
reaches a container with the contents that the environment gives, and no two of
them reach the same one. -/
structure Represents (replay : Replay) (env : Environment) : Prop where
  made : replay.kernel.containers.size = env.made
  refs : ∀ name, replay.refs.lookup name =
    (env.named name).map fun bound => (bound.number : Int)
  held : ∀ name bound, env.named name = some bound → ∃ container,
    replay.kernel.container? bound.number = some container ∧
      bound.contents.HeldBy replay.hosts container
  apart : env.Apart
  configured : replay.kernel.ListsConfigured

namespace Represents

/-- The handle of a name is the number of its container. -/
theorem handle_known (represents : Represents replay env) (known : env.named name = some bound) :
    replay.handle name = .ok (bound.number : Int) := by
  rw [handle_ok_iff, represents.refs, known]
  rfl

/-- A name without contents has no handle. -/
theorem handle_unknown (represents : Represents replay env) (unknown : env.named name = none) :
    replay.handle name = .error (.unknownRef name) := by
  unfold Replay.handle
  rw [represents.refs, unknown]
  rfl

/-- The text of a name is the text of its container. -/
theorem text_known (represents : Represents replay env) (known : env.named name = some bound) :
    replay.kernel.text? bound.number = env.text? name := by
  obtain ⟨container, live, held⟩ := represents.held name bound known
  rw [held.text live, Environment.text?, known]
  rfl

/-- The number of a named container is one of those given so far. -/
theorem number_le (represents : Represents replay env) (known : env.named name = some bound) :
    bound.number ≤ env.made := by
  obtain ⟨container, live, _⟩ := represents.held name bound known
  have bounds := Kernel.handle_of_live live
  rw [represents.made] at bounds
  omega

/-- A step whose operation makes nothing and leaves every container as it is keeps
all contents. -/
theorem kept (represents : Represents replay env)
    (found : replay.operation step = .ok (named, operation))
    (unmade : ∀ handle, (replay.kernel.step operation).2.result ≠ .ok (.handle handle))
    (unchanged : ∀ handle container, replay.kernel.container? handle = some container →
      container.after handle operation = container) :
    Represents (replay.run step).1 env := by
  have performed := run_performed found
  have refs : (replay.run step).1.refs = replay.refs := by
    rw [performed.refs]
    unfold boundRefs
    split
    · next handle made => exact absurd made (unmade handle)
    · rfl
  refine ⟨?_, ?_, ?_, represents.apart, ?_⟩
  · rw [performed.kernel, Kernel.size_of_no_handle unmade, represents.made]
  · rw [refs]
    exact represents.refs
  · intro name bound known
    obtain ⟨container, live, held⟩ := represents.held name bound known
    refine ⟨container, ?_, held.extended (hosts_run found)⟩
    rw [performed.kernel, Kernel.container?_step operation live, unchanged _ _ live]
  · rw [performed.kernel]
    exact Kernel.listsConfigured_step _ _ represents.configured

/-- A misuse keeps all contents. -/
theorem kept_of_misuse {misuse : Misuse} (represents : Represents replay env)
    (found : replay.operation step = .ok (named, operation))
    (failed : replay.kernel.attempt operation = .error misuse) :
    Represents (replay.run step).1 env := by
  refine represents.kept found ?_ ?_
  · intro handle made
    rw [Kernel.step_result, failed] at made
    cases made
  · intro handle container live
    exact Kernel.after_of_misuse live failed

/-- A step that makes a container binds its name to the contents of that one. The
number is new, so that no other name has it. -/
theorem bound_to_new {handle : Int} {contents : Contents} {container : Container}
    (represents : Represents replay env)
    (found : replay.operation step = .ok (named, operation))
    (made : (replay.kernel.step operation).2.result = .ok (.handle handle))
    (live : (replay.kernel.step operation).1.container? handle = some container)
    (held : contents.HeldBy replay.hosts container) :
    Represents (replay.run step).1 (env.bind step.ref contents) := by
  have performed := run_performed found
  obtain ⟨next, size⟩ := Kernel.size_of_handle made
  rw [represents.made] at next size
  have unchanged : ∀ (number : Int) (old : Container), old.after number operation = old := by
    intro number old
    apply Container.after_other
    rintro value rfl
    obtain impossible | impossible := Kernel.makes_of_handle made
    · cases impossible
    · cases impossible
  refine ⟨?_, ?_, ?_, ?_, ?_⟩
  · rw [performed.kernel, size]
    rfl
  · intro name
    rw [performed.refs, made]
    by_cases same : name = step.ref
    · simp [boundRefs, Environment.bind, same, next]
    · have different : (name == step.ref) = false := beq_eq_false_iff_ne.mpr same
      simp only [boundRefs, Environment.bind, same, if_false, List.lookup_cons, different,
        represents.refs]
  · -- The name reaches the new container, and every other name what it reached before.
    intro name bound known
    rw [performed.kernel]
    by_cases same : name = step.ref
    · simp only [Environment.bind, same, if_true] at known
      cases known
      exact ⟨container, by rw [← live, next]; rfl, held.extended (hosts_run found)⟩
    · simp only [Environment.bind, same, if_false] at known
      obtain ⟨old, oldLive, oldHeld⟩ := represents.held name bound known
      refine ⟨old, ?_, oldHeld.extended (hosts_run found)⟩
      rw [Kernel.container?_step operation oldLive, unchanged]
  · exact Environment.apart_bind represents.apart (fun _ _ known => represents.number_le known) _ _
  · rw [performed.kernel]
    exact Kernel.listsConfigured_step _ _ represents.configured

/-- The value of a description is the one of its item, and there is none exactly
if there is no item. -/
theorem value_of_item (represents : Represents replay env) (spec : Option ValueSpec) :
    match env.item? spec with
    | none => ∃ mismatch, replay.valueOrNil spec = .error mismatch
    | some item => ∃ named value, replay.valueOrNil spec = .ok (named, value) ∧
        item.value? named.hosts = some value := by
  cases spec with
  | none => exact ⟨replay, .nil, rfl, rfl⟩
  | some spec =>
    simp only [Environment.item?, valueOrNil]
    cases spec.meaning with
    | plain value => exact ⟨replay, value, rfl, rfl⟩
    | list name =>
      dsimp only [lookUp]
      cases known : env.named name with
      | none =>
        rw [represents.handle_unknown known]
        exact ⟨_, rfl⟩
      | some bound =>
        rw [represents.handle_known known]
        exact ⟨replay, .list bound.number, rfl, rfl⟩
    | string name =>
      dsimp only [lookUp]
      cases known : env.named name with
      | none =>
        rw [represents.handle_unknown known]
        exact ⟨_, rfl⟩
      | some bound =>
        rw [represents.handle_known known]
        exact ⟨replay, .string bound.number, rfl, rfl⟩
    | host name =>
      refine ⟨(replay.host name).1, (replay.host name).2, rfl, ?_⟩
      unfold Replay.host
      cases found : replay.hosts.findIdx? (· = name) with
      | some index => simp only [Item.value?, found, Option.map_some]
      | none => simp [Item.value?, List.findIdx?_append, found]
    | unusable text => exact ⟨_, rfl⟩

/-- A name for a list reaches a list with its items and the limit of the
settings. -/
theorem list_known {number : Nat} {items : List Item} (represents : Represents replay env)
    (known : env.named name = some ⟨number, .list items⟩) :
    ∃ stored, replay.kernel.container? number = some (.list stored) ∧
      stored.items.toList.map some = items.map (Item.value? replay.hosts) ∧
      stored.length = items.length ∧
      stored.limit = limitInForce replay.kernel.settings.listLimit := by
  obtain ⟨container, live, held⟩ := represents.held name _ known
  cases container with
  | string => exact held.elim
  | list stored =>
    have same : stored.items.toList.map some = items.map (Item.value? replay.hosts) := held
    have member : Container.list stored ∈ replay.kernel.containers :=
      Array.mem_of_getElem? (Kernel.getElem?_of_live live)
    have count := congrArg List.length same
    rw [List.length_map, List.length_map, Array.length_toList] at count
    refine ⟨stored, live, same, count, ?_⟩
    rw [DynamicList.limit, (represents.configured stored member).2]

/-- An append to a list with room adds its item to the contents of that name, and
of no other: the names are apart. -/
theorem appended {number : Nat} {items : List Item} {item : Item} {value : Value}
    (represents : Represents replay env)
    (known : env.named name = some ⟨number, .list items⟩)
    (found : replay.operation step = .ok (named, .listAppend number (some value)))
    (valued : item.value? named.hosts = some value)
    (room : (items.length : Int) < limitInForce replay.kernel.settings.listLimit) :
    Represents (replay.run step).1 (env.update name ⟨number, .list (items ++ [item])⟩) := by
  have performed := run_performed found
  obtain ⟨stored, live, same, count, limit⟩ := represents.list_known known
  have free : ¬ (stored.length : Int) ≥ stored.limit := by
    rw [count, limit]
    omega
  have answered : (replay.kernel.step (.listAppend number (some value))).2.result = .ok .done := by
    rw [Kernel.step_listAppend _ live, if_neg free]
  have hosts := hosts_run found
  refine ⟨?_, ?_, ?_, ?_, ?_⟩
  · rw [performed.kernel, Kernel.size_of_no_handle, represents.made]
    · rfl
    · intro handle made
      rw [answered] at made
      cases made
  · intro other
    rw [performed.refs, answered]
    show replay.refs.lookup other = _
    rw [represents.refs]
    by_cases here : other = name
    · simp only [Environment.update, here, known, if_true, Option.map_some]
    · simp only [Environment.update, here, if_false]
  · intro other bound bounded
    rw [performed.kernel]
    by_cases here : other = name
    · simp only [Environment.update, here, if_true] at bounded
      cases bounded
      refine ⟨_, Kernel.container?_step _ live, ?_⟩
      have held : (Contents.list items).HeldBy (replay.run step).1.hosts (.list stored) :=
        Contents.HeldBy.extended hosts same
      simp only [Container.after, if_true, Option.getD_some]
      show (stored.appended value).items.toList.map some = _
      rw [stored.appended_items, if_neg free, List.map_append, List.map_append, held,
        List.map_singleton, List.map_singleton,
        Item.value?_extended performed.hosts valued]
    · simp only [Environment.update, here, if_false] at bounded
      obtain ⟨container, otherLive, held⟩ := represents.held other bound bounded
      refine ⟨container, ?_, held.extended hosts⟩
      rw [Kernel.container?_step _ otherLive, Container.after_other]
      -- An append to its container would need two names with one number.
      intro given appends
      have numbers : number = bound.number :=
        Int.ofNat.inj (Operation.listAppend.inj appends).1
      exact here (represents.apart other name bound _ bounded known numbers.symm)
  · exact Environment.apart_update represents.apart known rfl
  · rw [performed.kernel]
    exact Kernel.listsConfigured_step _ _ represents.configured

/-- An append to a text is a misuse. -/
theorem append_to_text {number : Nat} {text : Bytes} (represents : Represents replay env)
    (known : env.named name = some ⟨number, .string text⟩) (value : Option Value) :
    ∃ misuse, replay.kernel.attempt (.listAppend number value) = .error misuse := by
  obtain ⟨container, live, held⟩ := represents.held name _ known
  cases attempted : replay.kernel.attempt (.listAppend number value) with
  | error misuse => exact ⟨misuse, rfl⟩
  | ok answer =>
    obtain ⟨stored, found, _⟩ := Except.bind_ok attempted
    rw [Kernel.list_ok_iff, live] at found
    cases found
    exact held.elim

/-- An append to a list without room is a misuse. -/
theorem append_to_full {number : Nat} {items : List Item} (represents : Represents replay env)
    (known : env.named name = some ⟨number, .list items⟩)
    (full : ¬ (items.length : Int) < limitInForce replay.kernel.settings.listLimit)
    (value : Option Value) :
    ∃ misuse, replay.kernel.attempt (.listAppend number value) = .error misuse := by
  obtain ⟨stored, live, _, count, limit⟩ := represents.list_known known
  have reached : (stored.length : Int) ≥ stored.limit := by
    rw [count, limit]
    omega
  apply Kernel.misuse_of_failure
  rw [Kernel.step_listAppend value live, if_pos reached]

/-! ### The kinds of step -/

/-- An append changes the contents as the environment says. -/
theorem run_append (represents : Represents replay env) (does : step.operation = .listAppend) :
    Represents (replay.run step).1
      (env.append replay.kernel.settings step.target (env.item? step.value)) := by
  have described := represents.value_of_item step.value
  unfold Environment.append
  cases known : env.named step.target with
  | none =>
    have failed : replay.operation step = .error (.unknownRef step.target) := by
      simp only [Replay.operation, does, represents.handle_unknown known]
      rfl
    rw [run_unasked failed]
    exact represents
  | some bound =>
    obtain ⟨number, contents⟩ := bound
    cases usable : env.item? step.value with
    | none =>
      rw [usable] at described
      obtain ⟨mismatch, unusable⟩ := described
      have failed : replay.operation step = .error mismatch := by
        simp only [Replay.operation, does, represents.handle_known known, unusable]
        rfl
      rw [run_unasked failed]
      cases contents <;> exact represents
    | some item =>
      rw [usable] at described
      obtain ⟨named, value, found, valued⟩ := described
      have asked : replay.operation step = .ok (named, .listAppend number (some value)) := by
        simp only [Replay.operation, does, represents.handle_known known, found]
        rfl
      cases contents with
      | string text =>
        obtain ⟨misuse, failed⟩ := represents.append_to_text known (some value)
        exact represents.kept_of_misuse asked failed
      | list items =>
        dsimp only
        split
        · next room => exact represents.appended known asked valued room
        · next full =>
          obtain ⟨misuse, failed⟩ := represents.append_to_full known full (some value)
          exact represents.kept_of_misuse asked failed

/-- A step that is to make a text comes to an operation that is to make the same
text, unless it uses a name without contents. -/
theorem asked_text (represents : Represents replay env)
    (makes : step.operation.makesText = true) :
    (∃ mismatch, replay.operation step = .error mismatch) ∧ env.built? step = none ∨
      ∃ operation, replay.operation step = .ok (replay, operation) ∧
        operation.makesString = true ∧ operation.joins = step.operation.joins ∧
        replay.kernel.built? operation = env.built? step := by
  cases does : step.operation with
  | stringNew =>
    refine .inr ⟨.stringNew step.text, ?_, rfl, rfl, ?_⟩
    · simp only [Replay.operation, does]
      rfl
    · simp only [Kernel.built?, Environment.built?, does]
  | stringAdd =>
    cases known : env.named step.target with
    | none =>
      refine .inl ⟨⟨.unknownRef step.target, ?_⟩, ?_⟩
      · simp only [Replay.operation, does, represents.handle_unknown known]
        rfl
      · simp only [Environment.built?, does, Environment.text?, known, Option.bind_none,
          Option.map_none]
    | some bound =>
      refine .inr ⟨.stringAdd bound.number step.text, ?_, rfl, rfl, ?_⟩
      · simp only [Replay.operation, does, represents.handle_known known]
        rfl
      · simp only [Kernel.built?, Environment.built?, does, represents.text_known known]
  | stringConcat =>
    cases known : env.named step.target with
    | none =>
      refine .inl ⟨⟨.unknownRef step.target, ?_⟩, ?_⟩
      · simp only [Replay.operation, does, represents.handle_unknown known]
        rfl
      · simp only [Environment.built?, does, Environment.text?, known, Option.bind_none]
    | some bound =>
      cases second : env.named step.other with
      | none =>
        refine .inl ⟨⟨.unknownRef step.other, ?_⟩, ?_⟩
        · simp only [Replay.operation, does, represents.handle_known known,
            represents.handle_unknown second]
          rfl
        · simp [Environment.built?, does, Environment.text?, second]
      | some other =>
        refine .inr ⟨.stringConcat bound.number other.number, ?_, rfl, rfl, ?_⟩
        · simp only [Replay.operation, does, represents.handle_known known,
            represents.handle_known second]
          rfl
        · simp only [Kernel.built?, Environment.built?, does, represents.text_known known,
            represents.text_known second]
  | listNew | listAppend | listAt | listLength | stringLength | stringAt | unknown =>
    rw [does] at makes
    cases makes

/-- A step that is to make a text binds its name to the text, if one is stored. -/
theorem run_text (represents : Represents replay env) (makes : step.operation.makesText = true) :
    Represents (replay.run step).1
      (match env.stored? replay.kernel.settings step with
      | some text => env.bind step.ref (.string text)
      | none => env) := by
  obtain ⟨⟨mismatch, failed⟩, unbuilt⟩ | ⟨operation, asked, stores, joins, same⟩ :=
    represents.asked_text makes
  · rw [run_unasked failed, Environment.stored?, unbuilt]
    exact represents
  · have stored : env.stored? replay.kernel.settings step = replay.kernel.stored? operation := by
      rw [Environment.stored?, Kernel.stored?, same, joins]
    rw [stored]
    cases made : replay.kernel.stored? operation with
    | none =>
      obtain ⟨misuse, failed⟩ := Kernel.misuse_of_unstored stores made
      exact represents.kept_of_misuse asked failed
    | some text =>
      have answered := Kernel.result_of_stored made
      obtain ⟨built, _⟩ := Option.filter_eq_some_iff.mp made
      obtain ⟨other, otherBuilt, live⟩ := Kernel.text?_made stores answered
      cases built.symm.trans otherBuilt
      exact represents.bound_to_new asked answered ((Kernel.text?_eq_some_iff _ _ _).mp live) rfl

/-- A step that makes a list binds its name to the empty list. -/
theorem run_listNew (represents : Represents replay env) (does : step.operation = .listNew) :
    Represents (replay.run step).1 (env.bind step.ref (.list [])) := by
  have asked : replay.operation step = .ok (replay, .listNew) := by
    simp only [Replay.operation, does]
    rfl
  exact represents.bound_to_new asked rfl (Kernel.container?_listNew rfl) rfl

/-- A step that reads, or that comes to nothing, keeps all contents. -/
theorem run_read (represents : Represents replay env)
    (reads : ∀ named operation, replay.operation step = .ok (named, operation) →
      operation.reads = true) :
    Represents (replay.run step).1 env := by
  cases asked : replay.operation step with
  | error mismatch =>
    rw [run_unasked asked]
    exact represents
  | ok answer =>
    obtain ⟨named, operation⟩ := answer
    have read := reads named operation asked
    refine represents.kept asked ?_ ?_
    · intro handle made
      obtain rfl | makes := Kernel.makes_of_handle made
      · cases read
      · rw [operation.makesString_not_reads makes] at read
        cases read
    · intro handle container _
      apply Container.after_other
      rintro value rfl
      cases read

end Represents

/-- One step keeps the agreement of names and contents. -/
theorem represents_run (represents : Represents replay env) (step : Step) :
    Represents (replay.run step).1 (env.step replay.kernel.settings step) := by
  unfold Environment.step
  cases does : step.operation with
  | listNew => exact represents.run_listNew does
  | listAppend => exact represents.run_append does
  | stringNew | stringAdd | stringConcat => exact represents.run_text (by rw [does]; rfl)
  | listAt | listLength | stringLength | stringAt | unknown =>
    refine represents.run_read ?_
    intro named operation found
    cases asked_of_operation found <;> simp_all [Operation.reads]

/-- Steps one after another keep the agreement of names and contents. -/
theorem represents_after (represents : Represents replay env) (steps : List Step) :
    Represents (replay.after steps) (env.after replay.kernel.settings steps) := by
  induction steps generalizing replay env with
  | nil => exact represents
  | cons step rest inductionHypothesis =>
    have later := inductionHypothesis (represents_run represents step)
    rw [settings_run] at later
    exact later

/-- A run in which faults are returned arrives at what its steps leave. -/
theorem runSteps_returning (returns : replay.kernel.settings.policy ≠ .abort)
    (fresh : replay.effects.exits = []) (scenario : Bytes) (index : Nat) (steps : List Step) :
    (runSteps scenario index steps replay).1 = replay.after steps := by
  have all : (replay.executed steps).map Prod.snd = steps :=
    executed_all (exits_of_returning returns fresh steps)
  have count : (replay.executed steps).length = steps.length := by
    rw [← List.length_map, all]
  rw [runSteps_eq, count, if_neg (Nat.lt_irrefl _), List.take_length]

/-- A fresh kernel and no names agree with the empty environment. -/
theorem represents_start (scenario : Scenario) (metrics : Option Metrics) :
    Represents (scenario.replay metrics) {} where
  made := rfl
  refs _ := rfl
  held _ _ known := by cases known
  apart _ _ _ _ known := by cases known
  configured _ found := by cases Array.not_mem_empty _ found

end Replay

namespace Scenario

/-- **Names stand for contents.** Take a scenario in which faults are returned,
and cut its steps in two. The run of the first part reaches a state from which the
run of the whole goes on, and in that state

* the names that have a handle are those that the environment gives contents;
* the handle is the creation number of the container, and the container has
  exactly these contents. -/
theorem names_reach_their_contents (scenario : Scenario) (metrics : Option Metrics)
    (returns : scenario.settings.effective.policy ≠ .abort) (before rest : List Step)
    (split : scenario.steps = before ++ rest) :
    let reached := (Replay.runSteps scenario.name 0 before (scenario.replay metrics)).1
    let env := Environment.after scenario.settings {} before
    scenario.last metrics = (Replay.runSteps scenario.name before.length rest reached).1 ∧
    (∀ name, (reached.refs.lookup name).isSome = true ↔ (env.named name).isSome = true) ∧
    ∀ name bound, env.named name = some bound →
      reached.refs.lookup name = some (bound.number : Int) ∧
      ∃ container, reached.kernel.container? bound.number = some container ∧
        bound.contents.HeldBy reached.hosts container := by
  intro reached env
  have fresh : (scenario.replay metrics).effects.exits = [] := rfl
  have arrived : reached = (scenario.replay metrics).after before :=
    Replay.runSteps_returning returns fresh scenario.name 0 before
  have represents : Replay.Represents reached env := by
    rw [arrived]
    exact Replay.represents_after (Replay.represents_start scenario metrics) before
  refine ⟨?_, ?_, ?_⟩
  · have still : reached.kernel.settings.policy ≠ .abort := by
      rw [arrived, Replay.settings_after]
      exact returns
    have unexited : reached.effects.exits = [] := by
      rw [arrived, (Replay.effects_after_returning returns before).1]
      rfl
    rw [Replay.runSteps_returning still unexited, arrived, ← Replay.after_append, ← split]
    exact Replay.runSteps_returning returns fresh scenario.name 0 scenario.steps
  · intro name
    rw [represents.refs, Option.isSome_map]
  · intro name bound known
    refine ⟨?_, represents.held name bound known⟩
    rw [represents.refs, known]
    rfl

/-- A text takes over its own name after a list got it as an item, and the step
that does this fails an expectation. The item stays the first text, and an append
to the name of the text does nothing. -/
theorem item_outlasts_rebinding :
    let before : List Step :=
      [{ operation := .listNew, ref := utf8 "a" },
        { operation := .stringNew, ref := utf8 "s", text := [120, 0, 121] },
        { operation := .listAppend, target := utf8 "a", value := some { string := utf8 "s" } },
        { operation := .stringAdd, ref := utf8 "s", target := utf8 "s", text := [122],
          expectText := some [] },
        { operation := .listAppend, target := utf8 "s" },
        { operation := .listAppend, target := utf8 "a", value := some { host := utf8 "h" } }]
    let scenario : Scenario :=
      { name := utf8 "rebinding"
        settings := { policy := .error, listLimit := 2 }
        steps := before ++ [{ operation := .listAppend, target := utf8 "a" }] }
    let reached := (Replay.runSteps scenario.name 0 before (scenario.replay none)).1
    scenario.settings.effective.policy ≠ .abort ∧
      (∃ container, reached.kernel.container? 1 = some container ∧
        (Contents.list [.string 2, .host (utf8 "h")]).HeldBy reached.hosts container) ∧
      reached.refs.lookup (utf8 "s") = some 3 ∧
      ∃ container, reached.kernel.container? 3 = some container ∧
        (Contents.string [120, 122]).HeldBy reached.hosts container := by
  intro before scenario reached
  have returns : scenario.settings.effective.policy ≠ .abort := by decide
  obtain ⟨_, _, contents⟩ := names_reach_their_contents scenario none returns before _ rfl
  obtain ⟨_, list⟩ := contents (utf8 "a") ⟨1, .list [.string 2, .host (utf8 "h")]⟩ (by decide)
  obtain ⟨handle, text⟩ := contents (utf8 "s") ⟨3, .string [120, 122]⟩ (by decide)
  exact ⟨returns, list, handle, text⟩

end Scenario

end ContainerKernel
